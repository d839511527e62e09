import HesaiSdk.Library.BufferRead
import HesaiSdk.UdpParser.Correction
import HesaiSdk.UdpParser.Udp47Parser

/-! How far `LoadCorrectionString` reads from the buffer of `LoadCorrectionFile`, whose length it is not given. -/

namespace HesaiSdk.Parsing

open Library.ByteLayout Library.BufferRead

section Agreement

variable {data data' : CorrectionData} {e : ℕ}

lemma setFirst_congr {α : Type} {n : ℕ} {new new' old : ℕ → α} (h : ∀ i < n, new i = new' i) :
    setFirst n new old = setFirst n new' old := by
  funext i
  by_cases hi : i < n
  · rw [setFirst_of_lt hi, setFirst_of_lt hi, h i hi]
  · rw [setFirst_of_le (not_lt.mp hi), setFirst_of_le (not_lt.mp hi)]

lemma uint16At_congr (h : ∀ o < e, data o = data' o) {o : ℕ} (ho : o + 2 ≤ e) :
    data.uint16At o = data'.uint16At o := by
  unfold CorrectionData.uint16At
  rw [bytesAt_congr fun k hk => h k (hk.trans_le ho)]

lemma int16At_congr (h : ∀ o < e, data o = data' o) {o : ℕ} (ho : o + 2 ≤ e) :
    data.int16At o = data'.int16At o := by
  unfold CorrectionData.int16At
  rw [bytesAt_congr fun k hk => h k (hk.trans_le ho)]

lemma uint32At_congr (h : ∀ o < e, data o = data' o) {o : ℕ} (ho : o + 4 ≤ e) :
    data.uint32At o = data'.uint32At o := by
  unfold CorrectionData.uint32At
  rw [bytesAt_congr fun k hk => h k (hk.trans_le ho)]

lemma int32At_congr (h : ∀ o < e, data o = data' o) {o : ℕ} (ho : o + 4 ≤ e) :
    data.int32At o = data'.int32At o := by
  unfold CorrectionData.int32At
  rw [bytesAt_congr fun k hk => h k (hk.trans_le ho)]

lemma int8At_congr (h : ∀ o < e, data o = data' o) {o : ℕ} (ho : o < e) : data.int8At o = data'.int8At o := by
  unfold CorrectionData.int8At
  rw [h o ho]

lemma isDelimited_congr (h : ∀ o < e, data o = data' o) (he : 2 ≤ e) : data.isDelimited = data'.isDelimited := by
  rw [CorrectionData.isDelimited, CorrectionData.isDelimited, h 0 (by omega), h 1 (by omega)]

end Agreement

def sizeofSha : ℕ := 32

/-- `GeneralParser::LoadCorrectionFile`: the memory starts with the contents of the file. -/
def Calibration.loadCorrectionFile (stack : LoadMemory) (p : Calibration) :
    List UInt8 → Outcome LoadedCorrection :=
  readString fun text => loadCorrectionString stack text p

namespace Udp43Parser

/-- The end of the last `memcpy`, which is that of the hash. -/
def readEnd (data : CorrectionData) : ℕ :=
  let header := PandarATCorrectionsHeader.read data
  if (data.isDelimited = true ∧ data.version = 5) ∧ header.refused = false
  then header.elevationAdjustOffset + header.adjustLength + sizeofSha
  else PandarATCorrectionsHeader.sizeofHeader

/-- `Udp4_3Parser::LoadCorrectionFile` -/
def loadCorrectionFile (p : Udp43Parser) : List UInt8 → Outcome Udp43Parser :=
  readWithin readEnd fun data => (p.loadCorrectionString data).1

section Extent

variable {data data' : CorrectionData} {e : ℕ}

lemma sizeofHeader_le_readEnd : PandarATCorrectionsHeader.sizeofHeader ≤ readEnd data := by
  rw [readEnd]
  simp only [PandarATCorrectionsHeader.elevationAdjustOffset, PandarATCorrectionsHeader.azimuthAdjustOffset,
    PandarATCorrectionsHeader.elevationOffset, PandarATCorrectionsHeader.azimuthOffset,
    PandarATCorrectionsHeader.endOffset]
  split_ifs <;> omega

lemma header_congr (h : ∀ o < readEnd data, data o = data' o) :
    data.isDelimited = data'.isDelimited ∧ data.version = data'.version ∧
      PandarATCorrectionsHeader.read data = PandarATCorrectionsHeader.read data' := by
  have hsize : 16 ≤ readEnd data := sizeofHeader_le_readEnd
  refine ⟨isDelimited_congr h (by omega), h 3 (by omega), ?_⟩
  rw [PandarATCorrectionsHeader.read, PandarATCorrectionsHeader.read, h 4 (by omega), h 6 (by omega), h 15 (by omega)]

lemma copyFile_congr {header : PandarATCorrectionsHeader} (c : PandarATCorrections)
    (h : ∀ o < e, data o = data' o) (he : header.elevationAdjustOffset + header.adjustLength ≤ e) :
    c.copyFile data header = c.copyFile data' header := by
  have hend : header.endOffset = PandarATCorrectionsHeader.sizeofHeader + 4 * header.frameNumber := rfl
  have hazimuth : header.azimuthOffset = header.endOffset + 4 * header.frameNumber := rfl
  have helevation : header.elevationOffset = header.azimuthOffset + 4 * header.channelNumber := rfl
  have hadjust : header.azimuthAdjustOffset = header.elevationOffset + 4 * header.channelNumber := rfl
  have hadjust' : header.elevationAdjustOffset = header.azimuthAdjustOffset + header.adjustLength := rfl
  rw [PandarATCorrections.copyFile, PandarATCorrections.copyFile, PandarATCorrections.mk.injEq]
  refine ⟨rfl, setFirst_congr fun i hi => ?_, setFirst_congr fun i hi => ?_, setFirst_congr fun i hi => ?_,
    setFirst_congr fun i hi => ?_, setFirst_congr fun i hi => ?_, setFirst_congr fun i hi => ?_⟩
  · rw [uint32At_congr h (by omega)]
  · rw [uint32At_congr h (by omega)]
  · rw [int32At_congr h (by omega)]
  · rw [int32At_congr h (by omega)]
  · rw [int8At_congr h (by omega)]
  · rw [int8At_congr h (by omega)]

lemma bounded_load (p : Udp43Parser) : Bounded readEnd fun data => (p.loadCorrectionString data).1 := by
  intro data data' h
  obtain ⟨hdelimited, hversion, hread⟩ := header_congr h
  refine ⟨by rw [readEnd, readEnd, hdelimited, hversion, hread], ?_⟩
  dsimp only
  obtain ⟨hother, heq⟩ | ⟨hfile, hrefused, heq⟩ | ⟨hfile, hrefused, heq⟩ := p.loadCorrectionString_cases data
  · rw [heq, loadCorrectionString, ← hdelimited, ← hversion, if_neg hother]
  · rw [heq, loadCorrectionString, ← hdelimited, ← hversion, if_pos hfile, ← hread, if_pos hrefused]
  · have hend : readEnd data = (PandarATCorrectionsHeader.read data).elevationAdjustOffset +
        (PandarATCorrectionsHeader.read data).adjustLength + sizeofSha := if_pos ⟨hfile, hrefused⟩
    have hcopy := copyFile_congr p.corrections h (Nat.le_of_add_right_le hend.ge)
    rw [heq, loadCorrectionString, ← hdelimited, ← hversion, if_pos hfile, ← hread,
      if_neg (Bool.eq_false_iff.mp hrefused), hcopy]

end Extent

end Udp43Parser

namespace Udp47Parser

/-- The end of the hash behind the angle tables of the version. -/
def readEnd (data : CorrectionData) : ℕ :=
  let header := ATXCorrectionsHeader.read data
  if (data.isDelimited = true ∧ header.known = true) ∧ header.refused = false then
    (if header.version = 1 then header.tableOffset 2
      else if header.version = 2 then header.tableOffset 3
      else header.tableOffset 3 + 2 * ATXCorrections.kLenElevationAdjust) + sizeofSha
  else ATXCorrectionsHeader.sizeofHeader

/-- `Udp4_7Parser::LoadCorrectionFile` -/
def loadCorrectionFile (p : Udp47Parser) : List UInt8 → Outcome Udp47Parser :=
  readWithin readEnd fun data => (p.loadCorrectionString data).1

section Extent

variable {data data' : CorrectionData} {e : ℕ}

lemma sizeofHeader_le_readEnd : ATXCorrectionsHeader.sizeofHeader ≤ readEnd data := by
  rw [readEnd]
  simp only [ATXCorrectionsHeader.tableOffset]
  split_ifs <;> omega

lemma header_congr (h : ∀ o < readEnd data, data o = data' o) :
    data.isDelimited = data'.isDelimited ∧ ATXCorrectionsHeader.read data = ATXCorrectionsHeader.read data' := by
  have hsize : 9 ≤ readEnd data := sizeofHeader_le_readEnd
  refine ⟨isDelimited_congr h (by omega), ?_⟩
  rw [ATXCorrectionsHeader.read, ATXCorrectionsHeader.read, h 3 (by omega), h 6 (by omega),
    uint16At_congr h (by omega)]

lemma angleAt_congr {header : ATXCorrectionsHeader} {table n : ℕ} {old : ℕ → ℚ} (h : ∀ o < e, data o = data' o)
    (he : header.tableOffset table + 2 * n ≤ e) :
    setFirst n (ATXCorrections.angleAt data header table) old =
      setFirst n (ATXCorrections.angleAt data' header table) old := by
  refine setFirst_congr fun i hi => ?_
  rw [ATXCorrections.angleAt, ATXCorrections.angleAt, int16At_congr h (by omega)]

lemma copyVersion2_congr {header : ATXCorrectionsHeader} (c : ATXCorrections) (h : ∀ o < e, data o = data' o)
    (he : header.tableOffset 3 ≤ e) : c.copyVersion2 data header = c.copyVersion2 data' header := by
  have h1 : header.tableOffset 1 = header.tableOffset 0 + 2 * header.channelNumber := header.tableOffset_succ 0
  have h2 : header.tableOffset 2 = header.tableOffset 1 + 2 * header.channelNumber := header.tableOffset_succ 1
  have h3 : header.tableOffset 3 = header.tableOffset 2 + 2 * header.channelNumber := header.tableOffset_succ 2
  rw [ATXCorrections.copyVersion2, ATXCorrections.copyVersion2, ATXCorrections.mk.injEq]
  refine ⟨rfl, rfl, setFirst_congr fun i hi => ?_, setFirst_congr fun i hi => ?_, rfl, angleAt_congr h (by omega),
    angleAt_congr h (by omega), angleAt_congr h (by omega), rfl⟩
  · rw [int16At_congr h (by omega)]
  · rw [int16At_congr h (by omega)]

lemma copyFile_congr {header : ATXCorrectionsHeader} (c : ATXCorrections) (h : ∀ o < e, data o = data' o)
    (he : (if header.version = 1 then header.tableOffset 2
      else if header.version = 2 then header.tableOffset 3
      else header.tableOffset 3 + 2 * ATXCorrections.kLenElevationAdjust) ≤ e) :
    c.copyFile data header = c.copyFile data' header := by
  rw [ATXCorrections.copyFile, ATXCorrections.copyFile]
  split_ifs at he ⊢ with h1 h2
  · have h1 : header.tableOffset 1 = header.tableOffset 0 + 2 * header.channelNumber := header.tableOffset_succ 0
    have h2 : header.tableOffset 2 = header.tableOffset 1 + 2 * header.channelNumber := header.tableOffset_succ 1
    rw [ATXCorrections.copyVersion1, ATXCorrections.copyVersion1, angleAt_congr h (by omega),
      angleAt_congr h (by omega)]
  · exact copyVersion2_congr c h he
  · rw [ATXCorrections.copyVersion3, ATXCorrections.copyVersion3, copyVersion2_congr c h (by omega),
      angleAt_congr h he]

lemma bounded_load (p : Udp47Parser) : Bounded readEnd fun data => (p.loadCorrectionString data).1 := by
  intro data data' h
  obtain ⟨hdelimited, hread⟩ := header_congr h
  refine ⟨by rw [readEnd, readEnd, hdelimited, hread], ?_⟩
  dsimp only
  obtain ⟨hother, heq⟩ | ⟨hfile, hrefused, heq⟩ | ⟨hfile, hrefused, heq⟩ := p.loadCorrectionString_cases data
  · rw [heq, loadCorrectionString, ← hdelimited, ← hread, if_neg hother]
  · rw [heq, loadCorrectionString, ← hdelimited, ← hread, if_pos hfile, if_pos hrefused]
  · have hend : readEnd data = _ + sizeofSha := if_pos ⟨hfile, hrefused⟩
    have hcopy := copyFile_congr (p.corrections.storeHeader (ATXCorrectionsHeader.read data)) h
      (Nat.le_of_add_right_le hend.ge)
    rw [heq, loadCorrectionString, ← hdelimited, ← hread, if_pos hfile, if_neg (Bool.eq_false_iff.mp hrefused),
      hcopy]

end Extent

end Udp47Parser

/-- A calibration file decides its own result exactly if, as a CSV file, it holds a terminating zero, and, as a binary
file, it is as long as its header and the counts in it say. -/
theorem file_decides_iff (file : List UInt8) (stack : LoadMemory) (p : Calibration) (q : Udp43Parser)
    (r : Udp47Parser) :
    (Decides (p.loadCorrectionFile stack) file ↔ 0 ∈ file) ∧
      (Decides q.loadCorrectionFile file ↔ Udp43Parser.readEnd (memoryAt file) ≤ file.length) ∧
      (Decides r.loadCorrectionFile file ↔ Udp47Parser.readEnd (memoryAt file) ≤ file.length) :=
  ⟨decides_readString_iff, decides_readWithin_iff q.bounded_load, decides_readWithin_iff r.bounded_load⟩

def textFile : List UInt8 := [76, 10, 49, 44, 53, 44, 55]

def firstAzimuth : Outcome LoadedCorrection → Option ℚ
  | .done c => some (c.parser.azimuthCollection 0)
  | _ => none

/-- With a digit behind the buffer the azimuth of the row is read as 73, without it as 7. -/
theorem file_decides_digit : ¬∀ (file : List UInt8) (stack : LoadMemory) (p : Calibration) (q : Udp43Parser)
    (r : Udp47Parser), Decides (p.loadCorrectionFile stack) file ∧ Decides q.loadCorrectionFile file ∧
      Decides r.loadCorrectionFile file := by
  intro h
  have hsame := (h textFile default default default default).1 [0] [51, 0]
  have hazimuth : firstAzimuth ((default : Calibration).loadCorrectionFile default (textFile ++ [0])) = some 7 := by
    decide +kernel
  have hazimuth' : firstAzimuth ((default : Calibration).loadCorrectionFile default (textFile ++ [51, 0])) =
      some 73 := by
    decide +kernel
  rw [hsame, hazimuth'] at hazimuth
  exact absurd hazimuth (by decide)

end HesaiSdk.Parsing
