import HesaiSdk.UdpParser.Udp47Parser

/-! The calibration files of the AT128 and of the ATX, and the tables that loading them fills. -/

namespace HesaiSdk.Parsing

open Library Library.ByteLayout

section Entries

variable {data : CorrectionData} {o n i : ℕ}

lemma uint32At_of_leTable {entry : ℕ → UInt32} (h : Holds data o (leTable 4 n fun i => (entry i).toNat))
    (hi : i < n) : data.uint32At (o + 4 * i) = entry i := by
  have hread := leNat_of_leTable h hi (entry i).toNat_lt
  rw [CorrectionData.uint32At, hread, UInt32.ofNat_toNat]

lemma int32At_of_leTable {entry : ℕ → Int32} (h : Holds data o (leTable 4 n fun i => (entry i).toUInt32.toNat))
    (hi : i < n) : data.int32At (o + 4 * i) = (entry i).toInt := by
  have hread : leNat (bytesAt data (o + 4 * i) 4) = (entry i).toUInt32.toNat :=
    leNat_of_leTable h hi (entry i).toUInt32.toNat_lt
  unfold CorrectionData.int32At
  rw [hread, Int32.toInt, BitVec.toInt_eq_toNat_bmod, Int32.toNat_toBitVec]

lemma int16At_of_leTable {entry : ℕ → Int16} (h : Holds data o (leTable 2 n fun i => (entry i).toUInt16.toNat))
    (hi : i < n) : data.int16At (o + 2 * i) = (entry i).toInt := by
  have hread : leNat (bytesAt data (o + 2 * i) 2) = (entry i).toUInt16.toNat :=
    leNat_of_leTable h hi (entry i).toUInt16.toNat_lt
  unfold CorrectionData.int16At
  rw [hread, Int16.toInt, BitVec.toInt_eq_toNat_bmod, Int16.toNat_toBitVec]

end Entries

/-- A calibration file of the AT128, version 5. `azimuthOffset` and `elevationOffset` are by channel. -/
structure At128File where
  majorVersion : UInt8
  channelNumber : UInt8
  mirrorNumber : UInt8
  frameNumber : UInt8
  frameConfig : ℕ → UInt8
  resolution : UInt8
  startFrame : ℕ → UInt32
  endFrame : ℕ → UInt32
  azimuth : ℕ → Int32
  elevation : ℕ → Int32
  azimuthOffset : ℕ → ℕ → Int8
  elevationOffset : ℕ → ℕ → Int8
  sha256 : List UInt8
  frames_le : frameNumber.toNat ≤ 8
  channels_le : channelNumber.toNat ≤ at128LaserNum

namespace At128File

variable (f : At128File)

def channels : ℕ := f.channelNumber.toNat

def frames : ℕ := f.frameNumber.toNat

def unit : ℕ := f.resolution.toNat

def headerBytes : List UInt8 :=
  [0xEE, 0xFF, f.majorVersion, 5, f.channelNumber, f.mirrorNumber, f.frameNumber] ++
    (List.range 8).map f.frameConfig ++ [f.resolution]

def offsetBytes (offset : ℕ → ℕ → Int8) : List UInt8 :=
  (List.range f.channels).flatMap fun ch => (List.range correctionAzimuthNum).map fun k => (offset ch k).toUInt8

def bytes : List UInt8 :=
  f.headerBytes ++ (leTable 4 f.frames (fun i => (f.startFrame i).toNat) ++
    (leTable 4 f.frames (fun i => (f.endFrame i).toNat) ++
    (leTable 4 f.channels (fun i => (f.azimuth i).toUInt32.toNat) ++
    (leTable 4 f.channels (fun i => (f.elevation i).toUInt32.toNat) ++
    (f.offsetBytes f.azimuthOffset ++ (f.offsetBytes f.elevationOffset ++ f.sha256))))))

structure Fits : Prop where
  startFrame : ∀ i < f.frames, (f.startFrame i).toNat * f.unit < 2 ^ 32
  endFrame : ∀ i < f.frames, (f.endFrame i).toNat * f.unit < 2 ^ 32
  azimuth : ∀ i < f.channels, -2 ^ 31 ≤ (f.azimuth i).toInt * f.unit ∧ (f.azimuth i).toInt * f.unit < 2 ^ 31
  elevation : ∀ i < f.channels, -2 ^ 31 ≤ (f.elevation i).toInt * f.unit ∧ (f.elevation i).toInt * f.unit < 2 ^ 31
  azimuthOffset : ∀ ch < f.channels, ∀ k < correctionAzimuthNum,
    -2 ^ 7 ≤ (f.azimuthOffset ch k).toInt * f.unit ∧ (f.azimuthOffset ch k).toInt * f.unit < 2 ^ 7
  elevationOffset : ∀ ch < f.channels, ∀ k < correctionAzimuthNum,
    -2 ^ 7 ≤ (f.elevationOffset ch k).toInt * f.unit ∧ (f.elevationOffset ch k).toInt * f.unit < 2 ^ 7

structure Decoded (c : PandarATCorrections) : Prop where
  startFrame : ∀ i < f.frames, (c.startFrame i).toNat = (f.startFrame i).toNat * f.unit
  endFrame : ∀ i < f.frames, (c.endFrame i).toNat = (f.endFrame i).toNat * f.unit
  azimuth : ∀ i < f.channels, c.azimuth i = (f.azimuth i).toInt * f.unit
  elevation : ∀ i < f.channels, c.elevation i = (f.elevation i).toInt * f.unit
  azimuthOffset : ∀ ch < f.channels, ∀ k < correctionAzimuthNum,
    c.azimuthOffset (ch * correctionAzimuthNum + k) = (f.azimuthOffset ch k).toInt * f.unit
  elevationOffset : ∀ ch < f.channels, ∀ k < correctionAzimuthNum,
    c.elevationOffset (ch * correctionAzimuthNum + k) = (f.elevationOffset ch k).toInt * f.unit

section Load

variable {f} {data : CorrectionData} {o ch k i : ℕ}

lemma read_header (h : Holds data 0 f.headerBytes) : data.isDelimited = true ∧ data.version = 5 ∧
    PandarATCorrectionsHeader.read data = ⟨f.channels, f.frames, f.resolution⟩ := by
  simp only [headerBytes, List.range_succ, List.range_zero, List.nil_append, List.cons_append, List.map_cons,
    List.map_nil, holds_cons] at h
  obtain ⟨h0, h1, -, h3, h4, -, h6, -, -, -, -, -, -, -, -, h15, -⟩ := h
  refine ⟨?_, h3, ?_⟩
  · rw [CorrectionData.isDelimited, h0, h1]
    rfl
  · rw [PandarATCorrectionsHeader.read, h4, h6, h15]
    rfl

lemma length_headerBytes : f.headerBytes.length = PandarATCorrectionsHeader.sizeofHeader := by
  simp [headerBytes, PandarATCorrectionsHeader.sizeofHeader]

lemma length_offsetBytes (offset : ℕ → ℕ → Int8) :
    (f.offsetBytes offset).length = correctionAzimuthNum * f.channels :=
  length_flatMap_range fun _ _ => by rw [List.length_map, List.length_range]

lemma int8At_of_offsetBytes {offset : ℕ → ℕ → Int8} (h : Holds data o (f.offsetBytes offset))
    (hch : ch < f.channels) (hk : k < correctionAzimuthNum) :
    data.int8At (o + (ch * correctionAzimuthNum + k)) = (offset ch k).toInt := by
  have hrow := holds_flatMap_range (w := correctionAzimuthNum)
    (fun _ _ => by rw [List.length_map, List.length_range]) h hch
  have hbyte : data (o + correctionAzimuthNum * ch + k) = (offset ch k).toUInt8 := holds_map_range hrow hk
  unfold CorrectionData.int8At
  rw [← Nat.add_assoc, Nat.mul_comm, hbyte, Int8.toInt, BitVec.toInt_eq_toNat_bmod, Int8.toNat_toBitVec]

lemma holds_sections (h : Holds data 0 f.bytes) :
    let header : PandarATCorrectionsHeader := ⟨f.channels, f.frames, f.resolution⟩
    Holds data 0 f.headerBytes ∧
      Holds data PandarATCorrectionsHeader.sizeofHeader (leTable 4 f.frames fun i => (f.startFrame i).toNat) ∧
      Holds data header.endOffset (leTable 4 f.frames fun i => (f.endFrame i).toNat) ∧
      Holds data header.azimuthOffset (leTable 4 f.channels fun i => (f.azimuth i).toUInt32.toNat) ∧
      Holds data header.elevationOffset (leTable 4 f.channels fun i => (f.elevation i).toUInt32.toNat) ∧
      Holds data header.azimuthAdjustOffset (f.offsetBytes f.azimuthOffset) ∧
      Holds data header.elevationAdjustOffset (f.offsetBytes f.elevationOffset) := by
  intro header
  simp only [bytes, holds_append, length_headerBytes, length_leTable, length_offsetBytes, Nat.zero_add] at h
  obtain ⟨hheader, hstart, hend, hazimuth, helevation, hazimuthOffset, helevationOffset, -⟩ := h
  have hadjust : header.elevationAdjustOffset = header.azimuthAdjustOffset + correctionAzimuthNum * f.channels := by
    rw [PandarATCorrectionsHeader.elevationAdjustOffset, PandarATCorrectionsHeader.adjustLength, Nat.mul_comm]
  rw [hadjust]
  exact ⟨hheader, hstart, hend, hazimuth, helevation, hazimuthOffset, helevationOffset⟩

lemma scaled_frame {x : UInt32} (hfits : x.toNat * f.unit < 2 ^ 32) :
    (x * f.resolution.toUInt32).toNat = x.toNat * f.unit := by
  rw [UInt32.toNat_mul, UInt8.toNat_toUInt32]
  exact Nat.mod_eq_of_lt hfits

lemma scaled_angle {w : ℕ} {z : ℤ} (hfits : -2 ^ w ≤ z ∧ z < 2 ^ w) : z.bmod (2 ^ (w + 1)) = z := by
  have hpow : (2 : ℤ) ^ (w + 1) = 2 * 2 ^ w := pow_succ' 2 w
  refine Int.bmod_eq_of_le ?_ ?_
  · push_cast
    omega
  · push_cast
    omega

lemma offset_lt_adjustLength (hch : ch < f.channels) (hk : k < correctionAzimuthNum) :
    ch * correctionAzimuthNum + k < f.channels * correctionAzimuthNum := calc
  ch * correctionAzimuthNum + k < (ch + 1) * correctionAzimuthNum := by
    rw [Nat.succ_mul]
    omega
  _ ≤ f.channels * correctionAzimuthNum := Nat.mul_le_mul_right _ hch

lemma decoded_copyFile (h : Holds data 0 f.bytes) (hfits : f.Fits) (c : PandarATCorrections) :
    let header : PandarATCorrectionsHeader := ⟨f.channels, f.frames, f.resolution⟩
    f.Decoded ((c.copyFile data header).scaleChannels header) := by
  intro header
  obtain ⟨-, hstart, hend, hazimuth, helevation, hazimuthOffset, helevationOffset⟩ := holds_sections h
  constructor
  · intro i (hi : i < header.frameNumber)
    simp only [PandarATCorrections.scaleChannels, PandarATCorrections.copyFile]
    rw [setFirst_of_lt hi, uint32At_of_leTable hstart hi, scaled_frame (hfits.startFrame i hi)]
  · intro i (hi : i < header.frameNumber)
    simp only [PandarATCorrections.scaleChannels, PandarATCorrections.copyFile]
    rw [setFirst_of_lt hi, uint32At_of_leTable hend hi, scaled_frame (hfits.endFrame i hi)]
  · intro i (hi : i < header.channelNumber)
    simp only [PandarATCorrections.scaleChannels, PandarATCorrections.copyFile]
    rw [setFirst_of_lt hi, setFirst_of_lt hi, int32At_of_leTable hazimuth hi]
    exact scaled_angle (hfits.azimuth i hi)
  · intro i (hi : i < header.channelNumber)
    simp only [PandarATCorrections.scaleChannels, PandarATCorrections.copyFile]
    rw [setFirst_of_lt hi, setFirst_of_lt hi, int32At_of_leTable helevation hi]
    exact scaled_angle (hfits.elevation i hi)
  · intro ch hch k hk
    have hi : ch * correctionAzimuthNum + k < header.adjustLength := offset_lt_adjustLength hch hk
    simp only [PandarATCorrections.scaleChannels, PandarATCorrections.copyFile]
    rw [setFirst_of_lt hi, setFirst_of_lt hi, int8At_of_offsetBytes hazimuthOffset hch hk]
    exact scaled_angle (hfits.azimuthOffset ch hch k hk)
  · intro ch hch k hk
    have hi : ch * correctionAzimuthNum + k < header.adjustLength := offset_lt_adjustLength hch hk
    simp only [PandarATCorrections.scaleChannels, PandarATCorrections.copyFile]
    rw [setFirst_of_lt hi, setFirst_of_lt hi, int8At_of_offsetBytes helevationOffset hch hk]
    exact scaled_angle (hfits.elevationOffset ch hch k hk)

lemma decoded_load (h : Holds data 0 f.bytes) (hfits : f.Fits) (p : Udp43Parser) :
    (p.loadCorrectionString data).2 = 0 ∧ (p.loadCorrectionString data).1.getCorrectionFile = true ∧
      f.Decoded (p.loadCorrectionString data).1.corrections := by
  obtain ⟨hheader, -⟩ := holds_sections h
  obtain ⟨hdelimited, hversion, hread⟩ := read_header hheader
  obtain ⟨hother, -⟩ | ⟨-, hrefused, -⟩ | ⟨-, -, heq⟩ := p.loadCorrectionString_cases data
  · exact absurd ⟨hdelimited, hversion⟩ hother
  · rw [hread, PandarATCorrectionsHeader.refused, decide_eq_true_iff] at hrefused
    rcases hrefused with hframes | hchannels
    · exact absurd f.frames_le (Nat.not_le.mpr hframes)
    · exact absurd f.channels_le (Nat.not_le.mpr hchannels)
  · rw [heq, hread]
    exact ⟨rfl, rfl, decoded_copyFile h hfits _⟩

end Load

end At128File

inductive AtxTables where
  | version1 (azimuth elevation : ℕ → Int16)
  | version2 (azimuthEven azimuthOdd elevation : ℕ → Int16)
  | version3 (azimuthEven azimuthOdd elevation elevationAdjust : ℕ → Int16)

namespace AtxTables

def version : AtxTables → UInt8
  | version1 _ _ => 1
  | version2 _ _ _ => 2
  | version3 _ _ _ _ => 3

def angles (n : ℕ) (angle : ℕ → Int16) : List UInt8 := leTable 2 n fun i => (angle i).toUInt16.toNat

def bytes (n : ℕ) : AtxTables → List UInt8
  | version1 azimuth elevation => angles n azimuth ++ angles n elevation
  | version2 azimuthEven azimuthOdd elevation => angles n azimuthEven ++ (angles n azimuthOdd ++ angles n elevation)
  | version3 azimuthEven azimuthOdd elevation elevationAdjust => angles n azimuthEven ++ (angles n azimuthOdd ++
      (angles n elevation ++ angles ATXCorrections.kLenElevationAdjust elevationAdjust))

def Divided (n division : ℕ) (table : ℕ → ℚ) (angle : ℕ → Int16) : Prop :=
  ∀ i < n, table i = (angle i).toInt / division

def Decoded (n division : ℕ) (c : ATXCorrections) : AtxTables → Prop
  | version1 azimuth elevation => Divided n division c.azimuth azimuth ∧ Divided n division c.elevation elevation
  | version2 azimuthEven azimuthOdd elevation => Divided n division c.azimuthEven azimuthEven ∧
      Divided n division c.azimuthOdd azimuthOdd ∧ Divided n division c.elevation elevation
  | version3 azimuthEven azimuthOdd elevation elevationAdjust => Divided n division c.azimuthEven azimuthEven ∧
      Divided n division c.azimuthOdd azimuthOdd ∧ Divided n division c.elevation elevation ∧
      Divided ATXCorrections.kLenElevationAdjust division c.elevationAdjusts elevationAdjust

end AtxTables

/-- A calibration file of the ATX; a byte cannot count more channels than there is room for. -/
structure AtxFile where
  majorVersion : UInt8
  reserved1 : UInt8
  reserved2 : UInt8
  channelNumber : UInt8
  angleDivision : UInt16
  tables : AtxTables
  shaValue : List UInt8
  division_ne : angleDivision ≠ 0

namespace AtxFile

variable (f : AtxFile)

def channels : ℕ := f.channelNumber.toNat

def headerBytes : List UInt8 :=
  [0xEE, 0xFF, f.majorVersion, f.tables.version, f.reserved1, f.reserved2, f.channelNumber] ++
    leBytes 2 f.angleDivision.toNat

def bytes : List UInt8 := f.headerBytes ++ (f.tables.bytes f.channels ++ f.shaValue)

def Decoded (c : ATXCorrections) : Prop := f.tables.Decoded f.channels f.angleDivision.toNat c

section Load

variable {f} {data : CorrectionData}

lemma read_header (h : Holds data 0 f.headerBytes) : data.isDelimited = true ∧
    ATXCorrectionsHeader.read data = ⟨f.tables.version, f.channels, f.angleDivision.toNat⟩ := by
  rw [headerBytes, holds_append] at h
  obtain ⟨⟨h0, h1, -, h3, -, -, h6, -⟩, hdivision⟩ := h
  have hdivision : Holds data 7 (leBytes 2 f.angleDivision.toNat) := hdivision
  have hlt : f.angleDivision.toNat < 256 ^ 2 := f.angleDivision.toNat_lt
  have hread : data.uint16At 7 = f.angleDivision.toNat := by
    rw [CorrectionData.uint16At, bytesAt_of_holds hdivision (length_leBytes 2 _), leNat_leBytes_of_lt hlt]
  refine ⟨?_, ?_⟩
  · rw [CorrectionData.isDelimited, h0, h1]
    rfl
  · rw [ATXCorrectionsHeader.read, h3, h6, hread]
    rfl

lemma length_angles (n : ℕ) (angle : ℕ → Int16) : (AtxTables.angles n angle).length = 2 * n := length_leTable 2 n _

lemma holds_next_table (header : ATXCorrectionsHeader) (table : ℕ) {angle : ℕ → Int16} {rest : List UInt8}
    (h : Holds data (header.tableOffset table) (AtxTables.angles header.channelNumber angle ++ rest)) :
    Holds data (header.tableOffset table) (AtxTables.angles header.channelNumber angle) ∧
      Holds data (header.tableOffset (table + 1)) rest := by
  rwa [holds_append, length_angles, ← header.tableOffset_succ] at h

lemma divided_setFirst {header : ATXCorrectionsHeader} {table n : ℕ} {angle : ℕ → Int16} {old : ℕ → ℚ}
    (h : Holds data (header.tableOffset table) (AtxTables.angles n angle)) :
    AtxTables.Divided n header.angleDivision (setFirst n (ATXCorrections.angleAt data header table) old) angle := by
  intro i hi
  rw [setFirst_of_lt hi, ATXCorrections.angleAt, int16At_of_leTable h hi]

lemma decoded_copyFile (h : Holds data 0 f.bytes) (c : ATXCorrections) :
    f.Decoded (c.copyFile data ⟨f.tables.version, f.channels, f.angleDivision.toNat⟩) := by
  have hheader : f.headerBytes.length = ATXCorrectionsHeader.sizeofHeader := by
    simp [headerBytes, ATXCorrectionsHeader.sizeofHeader]
  rw [bytes, holds_append, holds_append, hheader, Nat.zero_add] at h
  obtain ⟨-, htables, -⟩ := h
  rw [Decoded]
  cases ht : f.tables with
  | version1 azimuth elevation =>
    rw [ht] at htables
    obtain ⟨hazimuth, helevation⟩ := holds_next_table ⟨1, f.channels, f.angleDivision.toNat⟩ 0 htables
    exact ⟨divided_setFirst hazimuth, divided_setFirst helevation⟩
  | version2 azimuthEven azimuthOdd elevation =>
    rw [ht] at htables
    obtain ⟨heven, hrest⟩ := holds_next_table ⟨2, f.channels, f.angleDivision.toNat⟩ 0 htables
    obtain ⟨hodd, helevation⟩ := holds_next_table ⟨2, f.channels, f.angleDivision.toNat⟩ 1 hrest
    exact ⟨divided_setFirst heven, divided_setFirst hodd, divided_setFirst helevation⟩
  | version3 azimuthEven azimuthOdd elevation elevationAdjust =>
    rw [ht] at htables
    obtain ⟨heven, hrest⟩ := holds_next_table ⟨3, f.channels, f.angleDivision.toNat⟩ 0 htables
    obtain ⟨hodd, hrest⟩ := holds_next_table ⟨3, f.channels, f.angleDivision.toNat⟩ 1 hrest
    obtain ⟨helevation, hadjust⟩ := holds_next_table ⟨3, f.channels, f.angleDivision.toNat⟩ 2 hrest
    exact ⟨divided_setFirst heven, divided_setFirst hodd, divided_setFirst helevation, divided_setFirst hadjust⟩

lemma decoded_load (h : Holds data 0 f.bytes) (p : Udp47Parser) :
    (p.loadCorrectionString data).2 = 0 ∧ (p.loadCorrectionString data).1.getCorrectionFile = true ∧
      f.Decoded (p.loadCorrectionString data).1.corrections := by
  obtain ⟨hdelimited, hread⟩ := read_header (holds_append.mp h).1
  have hknown : (ATXCorrectionsHeader.read data).known = true := by
    rw [hread]
    cases f.tables <;> rfl
  obtain ⟨hother, -⟩ | ⟨-, hrefused, -⟩ | ⟨-, -, heq⟩ := p.loadCorrectionString_cases data
  · exact absurd ⟨hdelimited, hknown⟩ hother
  · rw [hread, ATXCorrectionsHeader.refused, decide_eq_true_iff] at hrefused
    rcases hrefused with hchannels | hdivision
    · have hbyte : f.channelNumber.toNat < 256 := f.channelNumber.toNat_lt
      have hroom : f.channelNumber.toNat ≤ atxLaserNum := hbyte.le.trans (by decide)
      exact absurd hchannels (Nat.not_lt.mpr hroom)
    · exact absurd (UInt16.toNat_inj.mp hdivision) f.division_ne
  · rw [heq, hread]
    exact ⟨rfl, rfl, decoded_copyFile h _⟩

end Load

end AtxFile

/-- Whatever was loaded before, a well formed calibration file of the AT128 or of the ATX is accepted, and every angle
of it ends up in its place. -/
theorem binary_correction_decoded (f : At128File) (g : AtxFile) (data data' : CorrectionData) (p : Udp43Parser)
    (q : Udp47Parser) (hat : Holds data 0 f.bytes) (hfits : f.Fits) (hatx : Holds data' 0 g.bytes) :
    ((p.loadCorrectionString data).2 = 0 ∧ (p.loadCorrectionString data).1.getCorrectionFile = true ∧
        f.Decoded (p.loadCorrectionString data).1.corrections) ∧
      (q.loadCorrectionString data').2 = 0 ∧ (q.loadCorrectionString data').1.getCorrectionFile = true ∧
        g.Decoded (q.loadCorrectionString data').1.corrections :=
  ⟨At128File.decoded_load hat hfits p, AtxFile.decoded_load hatx q⟩

lemma one_frame_le : (1 : UInt8).toNat ≤ 8 := by decide

lemma one_channel_le : (1 : UInt8).toNat ≤ at128LaserNum := by decide

lemma hundred_ne : (100 : UInt16) ≠ 0 := by decide

def at128Sample : At128File where
  majorVersion := 0
  channelNumber := 1
  mirrorNumber := 3
  frameNumber := 1
  frameConfig _ := 0
  resolution := 2
  startFrame _ := 40
  endFrame _ := 90
  azimuth _ := -3
  elevation _ := 5
  azimuthOffset _ _ := -7
  elevationOffset _ _ := 11
  sha256 := []
  frames_le := one_frame_le
  channels_le := one_channel_le

def atxSample : AtxFile where
  majorVersion := 0
  reserved1 := 0
  reserved2 := 0
  channelNumber := 1
  angleDivision := 100
  tables := .version3 (fun _ => -250) (fun _ => 250) (fun _ => 30) fun i => Int16.ofNat i
  shaValue := []
  division_ne := hundred_ne

lemma at128Sample_fits : at128Sample.Fits where
  startFrame _ _ := (by decide : (40 : UInt32).toNat * 2 < 2 ^ 32)
  endFrame _ _ := (by decide : (90 : UInt32).toNat * 2 < 2 ^ 32)
  azimuth _ _ := (by decide : -2 ^ 31 ≤ (-3 : Int32).toInt * (2 : ℕ) ∧ (-3 : Int32).toInt * (2 : ℕ) < 2 ^ 31)
  elevation _ _ := (by decide : -2 ^ 31 ≤ (5 : Int32).toInt * (2 : ℕ) ∧ (5 : Int32).toInt * (2 : ℕ) < 2 ^ 31)
  azimuthOffset _ _ _ _ := (by decide : -2 ^ 7 ≤ (-7 : Int8).toInt * (2 : ℕ) ∧ (-7 : Int8).toInt * (2 : ℕ) < 2 ^ 7)
  elevationOffset _ _ _ _ := (by decide : -2 ^ 7 ≤ (11 : Int8).toInt * (2 : ℕ) ∧ (11 : Int8).toInt * (2 : ℕ) < 2 ^ 7)

theorem binary_correction_sample :
    ((default : Udp43Parser).loadCorrectionString
        (overlay at128Sample.bytes default)).1.corrections.azimuthOffset 179 = -14 ∧
      ((default : Udp47Parser).loadCorrectionString
        (overlay atxSample.bytes default)).1.corrections.elevationAdjusts 69 = 69 / 100 := by
  obtain ⟨⟨-, -, hat⟩, -, -, -, -, -, hadjust⟩ := binary_correction_decoded at128Sample atxSample _ _ default default
    (holds_overlay _) at128Sample_fits (holds_overlay _)
  exact ⟨hat.azimuthOffset 0 (by decide) 179 (by decide), hadjust 69 (by decide)⟩

end HesaiSdk.Parsing
