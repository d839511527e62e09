import HesaiSdk.Library.TextWriter
import HesaiSdk.UdpParser.BinaryCorrection
import HesaiSdk.UdpParser.CorrectionExtent

/-! The two forms of a file of firing times of the ATX. -/

namespace HesaiSdk.Parsing

open Library Library.ByteLayout Library.TextStream

namespace ATXFiretimesHeader

def read (data : CorrectionData) : ATXFiretimesHeader where
  delimiter := (data 0, data 1)
  version := (data 2, data 3)
  reserved1 := data 4
  reserved2 := data 5
  channelNumber := data 6
  angleDivision := UInt16.ofNat (data.uint16At 7)

variable (h : ATXFiretimesHeader)

def bytes : List UInt8 :=
  [h.delimiter.1, h.delimiter.2, h.version.1, h.version.2, h.reserved1, h.reserved2, h.channelNumber] ++
    leBytes 2 h.angleDivision.toNat

def sizeofHeader : ℕ := 9

def channels : ℕ := h.channelNumber.toNat

def refused : Bool := decide (atxLaserNum < h.channels ∨ h.angleDivision = 0)

def tableOffset (table : ℕ) : ℕ := sizeofHeader + 2 * (h.channels * table)

lemma tableOffset_succ (table : ℕ) : h.tableOffset (table + 1) = h.tableOffset table + 2 * h.channels := by
  rw [tableOffset, tableOffset]
  ring

lemma length_bytes : h.bytes.length = sizeofHeader := by simp [bytes, sizeofHeader]

variable {h}

lemma read_of_bytes {data : CorrectionData} (hbytes : Holds data 0 h.bytes) : read data = h := by
  rw [bytes, holds_append] at hbytes
  obtain ⟨⟨h0, h1, h2, h3, h4, h5, h6, -⟩, hdivision⟩ := hbytes
  have hdivision : Holds data 7 (leBytes 2 h.angleDivision.toNat) := hdivision
  have hlt : h.angleDivision.toNat < 256 ^ 2 := h.angleDivision.toNat_lt
  have hread : UInt16.ofNat (data.uint16At 7) = h.angleDivision := by
    rw [CorrectionData.uint16At, bytesAt_of_holds hdivision (length_leBytes 2 _), leNat_leBytes_of_lt hlt,
      UInt16.ofNat_toNat]
  rw [read, h0, h1, h2, h3, h4, h5, h6, hread]

end ATXFiretimesHeader

namespace ATXFiretimes

variable (data : CorrectionData) (h : ATXFiretimesHeader) (firetimes : ATXFiretimes)

def rawAt (table i : ℕ) : UInt16 := UInt16.ofNat (data.uint16At (h.tableOffset table + 2 * i))

def copyFile : ATXFiretimes where
  header := h
  rawEvenFiretimeCorrection := setFirst h.channels (rawAt data h 0) firetimes.rawEvenFiretimeCorrection
  rawOddFiretimeCorrection := setFirst h.channels (rawAt data h 1) firetimes.rawOddFiretimeCorrection
  evenFiretimeCorrection := setFirst h.channels (fun i => (rawAt data h 0 i).toNat) firetimes.evenFiretimeCorrection
  oddFiretimeCorrection := setFirst h.channels (fun i => (rawAt data h 1 i).toNat) firetimes.oddFiretimeCorrection
  shaValue := setFirst 32 (fun i => data (h.tableOffset 2 + i)) firetimes.shaValue

end ATXFiretimes

namespace Udp47Parser

section Load

variable (p : Udp47Parser)

/-- The header is stored before it is checked. -/
def loadFiretimesString (data : CorrectionData) : Udp47Parser × ℤ :=
  let header := ATXFiretimesHeader.read data
  if header.delimiter = (0xEE, 0xFF) ∧ header.version.2 = 1 then
    let committed := { p.firetimes with header := header }
    if header.refused then ({ p with firetimes := committed }, -1)
    else
      ({ p with
        getFiretimeFile := true
        firetimes := committed.copyFile data header }, 0)
  else (p, -1)

/-- A line of the text form; none where a number is missing or the index is outside of the tables. -/
def readFiretime (firetimes : ATXFiretimes) (line : List Char) : Option ATXFiretimes := do
  let fields := getlines ',' line
  let index ← stoi (fields.getD 0 [])
  let deltTime1 ← stod (fields.getD 1 [])
  let deltTime2 ← stod (fields.getD 2 [])
  if 1 ≤ index ∧ index ≤ atxLaserNum then
    some { firetimes with
      evenFiretimeCorrection := Function.update firetimes.evenFiretimeCorrection (index - 1).toNat deltTime1
      oddFiretimeCorrection := Function.update firetimes.oddFiretimeCorrection (index - 1).toNat deltTime2 }
  else none

def isBinary (path : List Char) : Bool :=
  let extension := path.drop (path.length - 4)
  extension == ['.', 'b', 'i', 'n'] || extension == ['.', 'd', 'a', 't']

def isText (path : List Char) : Bool := path.drop (path.length - 4) == ['.', 'c', 's', 'v']

/-- `LoadFiretimesFile`; `text` and `data` are what the file holds, read as the one and as the other form. The first
line of the text is skipped. -/
def loadFiretimesFile (path : List Char) (text : Option (List Char)) (data : Option CorrectionData) :
    Option Udp47Parser :=
  if path.length < 4 then some p
  else if isBinary path then
    match data with
    | none => some p
    | some data => some (p.loadFiretimesString data).1
  else if isText path then
    match text with
    | none => some { p with getFiretimeFile := false }
    | some text => do
      let firetimes ← ((getlines '\n' text).drop 1).foldlM readFiretime p.firetimes
      some { p with
        getFiretimeFile := true
        firetimes := firetimes }
  else some p

end Load

end Udp47Parser

/-- Firing times of the ATX in whole numbers. The lines of the text form may come in any order. -/
structure AtxFiretimesFile where
  header : ATXFiretimesHeader
  even : ℕ → UInt16
  odd : ℕ → UInt16
  shaValue : ℕ → UInt8
  columns : { text : List Char // '\n' ∉ text }
  order : List ℕ
  delimiter : header.delimiter = (0xEE, 0xFF)
  version : header.version.2 = 1
  division_ne : header.angleDivision ≠ 0
  mem_order : ∀ i, i ∈ order ↔ i < header.channels

namespace AtxFiretimesFile

variable (f : AtxFiretimesFile)

def channels : ℕ := f.header.channels

def bytes : List UInt8 :=
  f.header.bytes ++ (leTable 2 f.channels (fun i => (f.even i).toNat) ++
    (leTable 2 f.channels (fun i => (f.odd i).toNat) ++ (List.range 32).map f.shaValue))

def fields (i : ℕ) : List (List Char) := [writeNat (i + 1), writeNat (f.even i).toNat, writeNat (f.odd i).toNat]

def text : List Char := writeLines '\n' (f.columns.1 :: f.order.map fun i => writeFields ',' (f.fields i))

/-- What either form makes of the tables that decoding uses. -/
def store (firetimes : ATXFiretimes) : ATXFiretimes :=
  { firetimes with
    evenFiretimeCorrection := setFirst f.channels (fun i => (f.even i).toNat) firetimes.evenFiretimeCorrection
    oddFiretimeCorrection := setFirst f.channels (fun i => (f.odd i).toNat) firetimes.oddFiretimeCorrection }

/-- What the binary form keeps of the file beside them. -/
def storeRaw (firetimes : ATXFiretimes) : ATXFiretimes :=
  { firetimes with
    header := f.header
    rawEvenFiretimeCorrection := setFirst f.channels f.even firetimes.rawEvenFiretimeCorrection
    rawOddFiretimeCorrection := setFirst f.channels f.odd firetimes.rawOddFiretimeCorrection
    shaValue := setFirst 32 f.shaValue firetimes.shaValue }

section Binary

variable {f} {data : CorrectionData}

lemma rawAt_of_leTable {table i : ℕ} {entry : ℕ → UInt16}
    (h : Holds data (f.header.tableOffset table) (leTable 2 f.channels fun i => (entry i).toNat))
    (hi : i < f.channels) : ATXFiretimes.rawAt data f.header table i = entry i := by
  rw [ATXFiretimes.rawAt, CorrectionData.uint16At, leNat_of_leTable h hi (entry i).toNat_lt, UInt16.ofNat_toNat]

lemma channels_le : f.channels ≤ atxLaserNum :=
  f.header.channelNumber.toNat_lt.le.trans (by decide)

lemma refused_eq : f.header.refused = false := by
  rw [ATXFiretimesHeader.refused, decide_eq_false_iff_not, not_or]
  exact ⟨Nat.not_lt.mpr channels_le, f.division_ne⟩

lemma holds_sections (h : Holds data 0 f.bytes) : Holds data 0 f.header.bytes ∧
    Holds data (f.header.tableOffset 0) (leTable 2 f.channels fun i => (f.even i).toNat) ∧
    Holds data (f.header.tableOffset 1) (leTable 2 f.channels fun i => (f.odd i).toNat) ∧
    Holds data (f.header.tableOffset 2) ((List.range 32).map f.shaValue) := by
  have hfirst : f.header.tableOffset 1 = ATXFiretimesHeader.sizeofHeader + 2 * f.channels :=
    f.header.tableOffset_succ 0
  have hsecond : f.header.tableOffset 2 = f.header.tableOffset 1 + 2 * f.channels := f.header.tableOffset_succ 1
  rw [bytes, holds_append, holds_append, holds_append, ATXFiretimesHeader.length_bytes, length_leTable,
    length_leTable, Nat.zero_add] at h
  rw [hsecond, hfirst]
  exact h

lemma copyFile_eq (h : Holds data 0 f.bytes) (firetimes : ATXFiretimes) :
    firetimes.copyFile data f.header = f.storeRaw (f.store firetimes) := by
  obtain ⟨-, heven, hodd, hsha⟩ := holds_sections h
  rw [ATXFiretimes.copyFile, storeRaw, store]
  congr 1
  · exact setFirst_congr fun i hi => rawAt_of_leTable heven hi
  · exact setFirst_congr fun i hi => rawAt_of_leTable hodd hi
  · exact setFirst_congr fun i hi => by rw [rawAt_of_leTable heven hi]
  · exact setFirst_congr fun i hi => by rw [rawAt_of_leTable hodd hi]
  · exact setFirst_congr fun i hi => holds_map_range hsha hi

lemma loadFiretimesString_bytes (h : Holds data 0 f.bytes) (p : Udp47Parser) : p.loadFiretimesString data =
    ({ p with
      getFiretimeFile := true
      firetimes := f.storeRaw (f.store p.firetimes) }, 0) := by
  have hread : ATXFiretimesHeader.read data = f.header := ATXFiretimesHeader.read_of_bytes (holds_sections h).1
  rw [Udp47Parser.loadFiretimesString]
  simp only [hread, f.delimiter, f.version, and_self, if_true, refused_eq, copyFile_eq h]
  rfl

end Binary

section Text

variable {f}

lemma notMem_fields {c : Char} (hc : c.isDigit = false) (i : ℕ) : ∀ field ∈ f.fields i, c ∉ field := by
  refine List.forall_mem_cons.mpr ⟨(digits_writeNat _).notMem hc, List.forall_mem_cons.mpr ⟨?_, ?_⟩⟩
  · exact (digits_writeNat _).notMem hc
  · exact List.forall_mem_singleton.mpr ((digits_writeNat _).notMem hc)

lemma getlines_fields (i : ℕ) : getlines ',' (writeFields ',' (f.fields i)) = f.fields i := by
  refine getlines_writeFields (notMem_fields (by decide) i) fun last hlast => ?_
  rw [← Option.mem_some.mp hlast]
  exact writeNat_ne_nil _

lemma readFiretime_fields (firetimes : ATXFiretimes) {i : ℕ} (hi : i < f.channels) :
    Udp47Parser.readFiretime firetimes (writeFields ',' (f.fields i)) =
      some { firetimes with
        evenFiretimeCorrection := Function.update firetimes.evenFiretimeCorrection i (f.even i).toNat
        oddFiretimeCorrection := Function.update firetimes.oddFiretimeCorrection i (f.odd i).toNat } := by
  have hle : i < atxLaserNum := hi.trans_le channels_le
  have hsmall : i + 1 < 2 ^ 31 := (Nat.add_lt_add_right hle 1).trans (by decide)
  have heven : (f.even i).toNat < 2 ^ 31 := (f.even i).toNat_lt.trans (by decide)
  have hodd : (f.odd i).toNat < 2 ^ 31 := (f.odd i).toNat_lt.trans (by decide)
  rw [Udp47Parser.readFiretime, getlines_fields]
  simp only [fields, List.getD_cons_zero, List.getD_cons_succ, stoi_writeNat hsmall, stod_writeNat heven,
    stod_writeNat hodd, Option.bind_eq_bind, Option.bind_some]
  rw [if_pos (by omega), Nat.cast_succ, Int.add_sub_cancel, Int.toNat_natCast]

lemma overwrite_cons {table new : ℕ → ℚ} {i : ℕ} {rows : List ℕ} :
    (fun k => if k ∈ rows then new k else Function.update table i (new i) k) =
      fun k => if k ∈ i :: rows then new k else table k := by
  funext k
  by_cases hrows : k ∈ rows
  · rw [if_pos hrows, if_pos (List.mem_cons_of_mem i hrows)]
  · rw [if_neg hrows]
    by_cases hk : k = i
    · rw [hk, Function.update_self, if_pos List.mem_cons_self]
    · rw [Function.update_of_ne hk, if_neg (by simp [hk, hrows])]

/-- A table holds the new entries of the rows that were read, in whatever order they came. -/
lemma readFiretimes_fields {rows : List ℕ} (h : ∀ i ∈ rows, i < f.channels) (firetimes : ATXFiretimes) :
    (rows.map fun i => writeFields ',' (f.fields i)).foldlM Udp47Parser.readFiretime firetimes =
      some { firetimes with
        evenFiretimeCorrection := fun k => if k ∈ rows then (f.even k).toNat else firetimes.evenFiretimeCorrection k
        oddFiretimeCorrection := fun k =>
          if k ∈ rows then (f.odd k).toNat else firetimes.oddFiretimeCorrection k } := by
  induction rows generalizing firetimes with
  | nil =>
    rw [List.map_nil, List.foldlM_nil]
    rfl
  | cons i rows ih =>
    rw [List.map_cons, List.foldlM_cons, readFiretime_fields firetimes (h i List.mem_cons_self), Option.bind_eq_bind,
      Option.bind_some, ih fun j hj => h j (List.mem_cons_of_mem i hj)]
    exact congrArg₂ (fun even odd => some { firetimes with
      evenFiretimeCorrection := even
      oddFiretimeCorrection := odd }) overwrite_cons overwrite_cons

lemma notMem_newline : ∀ line ∈ f.columns.1 :: f.order.map fun i => writeFields ',' (f.fields i), '\n' ∉ line := by
  refine List.forall_mem_cons.mpr ⟨f.columns.2, fun line hline => ?_⟩
  obtain ⟨i, -, rfl⟩ := List.mem_map.mp hline
  exact notMem_writeFields (by decide) (notMem_fields (by decide) i)

lemma readFiretimes_text (firetimes : ATXFiretimes) :
    ((getlines '\n' f.text).drop 1).foldlM Udp47Parser.readFiretime firetimes = some (f.store firetimes) := by
  rw [text, getlines_writeLines notMem_newline, List.drop_succ_cons, List.drop_zero,
    readFiretimes_fields fun i hi => (f.mem_order i).mp hi]
  simp only [f.mem_order]
  rfl

end Text

lemma four_le_of_drop {path extension : List Char} (h : path.drop (path.length - 4) = extension)
    (hlength : extension.length = 4) : ¬path.length < 4 := by
  have hdrop := congrArg List.length h
  rw [List.length_drop, hlength] at hdrop
  omega

lemma length_of_isBinary {path : List Char} (h : Udp47Parser.isBinary path = true) : ¬path.length < 4 := by
  rw [Udp47Parser.isBinary, Bool.or_eq_true, beq_iff_eq, beq_iff_eq] at h
  rcases h with h | h
  · exact four_le_of_drop h rfl
  · exact four_le_of_drop h rfl

lemma length_of_isText {path : List Char} (h : Udp47Parser.isText path = true) :
    ¬path.length < 4 ∧ Udp47Parser.isBinary path = false := by
  rw [Udp47Parser.isText, beq_iff_eq] at h
  refine ⟨four_le_of_drop h rfl, ?_⟩
  rw [Udp47Parser.isBinary, h]
  rfl

/-- Both forms of a file fill the tables of the channels with its times; the binary form also keeps the header, the
tables as they are in the file and the check value. Nothing else of the parser changes, and units are decoded alike. -/
theorem loadFiretimesFile_forms {data : CorrectionData} (h : Holds data 0 f.bytes) (p : Udp47Parser)
    (binary text : List Char) (hbinary : Udp47Parser.isBinary binary = true) (htext : Udp47Parser.isText text = true)
    (other : Option (List Char)) (other' : Option CorrectionData) :
    let p1 := { p with
      getFiretimeFile := true
      firetimes := f.storeRaw (f.store p.firetimes) }
    let p2 := { p with
      getFiretimeFile := true
      firetimes := f.store p.firetimes }
    p.loadFiretimesFile binary other (some data) = some p1 ∧ p.loadFiretimesFile text (some f.text) other' = some p2 ∧
      p1.unitAzimuth = p2.unitAzimuth := by
  obtain ⟨hlength, hother⟩ := length_of_isText htext
  refine ⟨?_, ?_, rfl⟩
  · simp only [Udp47Parser.loadFiretimesFile, if_neg (length_of_isBinary hbinary), if_pos hbinary,
      loadFiretimesString_bytes h p]
  · simp only [Udp47Parser.loadFiretimesFile, if_neg hlength, hother, if_neg (by decide : ¬false = true), if_pos htext,
      readFiretimes_text, Option.bind_eq_bind, Option.bind_some]

def sampleHeader : ATXFiretimesHeader := ⟨(0xEE, 0xFF), (1, 1), 0, 0, 3, 100⟩

lemma mem_sample_order (i : ℕ) : i ∈ [1, 0, 2, 1] ↔ i < sampleHeader.channels := by
  have hchannels : sampleHeader.channels = 3 := rfl
  rw [hchannels]
  simp only [List.mem_cons, List.not_mem_nil, or_false]
  omega

def sample : AtxFiretimesFile where
  header := sampleHeader
  even i := UInt16.ofNat (300 + i)
  odd i := UInt16.ofNat (700 + i)
  shaValue i := UInt8.ofNat (2 * i + 1)
  columns := ⟨[], List.not_mem_nil⟩
  order := [1, 0, 2, 1]
  delimiter := rfl
  version := rfl
  division_ne := by decide
  mem_order := mem_sample_order

theorem loadFiretimesFile_forms_sample :
    ∃ p1 p2, (default : Udp47Parser).loadFiretimesFile ['.', 'd', 'a', 't'] none (some (overlay sample.bytes default)) =
        some p1 ∧
      (default : Udp47Parser).loadFiretimesFile ['.', 'c', 's', 'v'] (some sample.text) none = some p2 ∧
      p1.firetimes.evenFiretimeCorrection 1 = 301 ∧ p2.firetimes.evenFiretimeCorrection 1 = 301 ∧
      p1.firetimes.oddFiretimeCorrection 2 = 702 ∧ p2.firetimes.oddFiretimeCorrection 2 = 702 ∧
      p1.firetimes.shaValue 31 = 63 ∧ p2.firetimes.shaValue 31 = 0 ∧
      p1.firetimes.header.angleDivision = 100 ∧ p2.firetimes.header.angleDivision = 0 := by
  obtain ⟨hbinary, htext, -⟩ := loadFiretimesFile_forms (f := sample) (holds_overlay _) default ['.', 'd', 'a', 't']
    ['.', 'c', 's', 'v'] rfl rfl none none
  exact ⟨_, _, hbinary, htext, rfl, rfl, rfl, rfl, rfl, rfl, rfl, rfl⟩

end AtxFiretimesFile

end HesaiSdk.Parsing
