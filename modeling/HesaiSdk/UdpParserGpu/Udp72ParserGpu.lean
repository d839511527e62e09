import HesaiSdk.UdpParser.Udp72Parser

/-! The calibration of the FT120 on the graphics card. -/

namespace HesaiSdk.Parsing

open Library.BufferRead Library.TextStream

section Formats

variable (data : CorrectionData) (text : List Char) (c : PandarFTCorrections)

def FtBinary : Prop := data.isDelimited = true ∧ (data.version = 0 ∨ data.version = 1)

def FtCsv : Prop := ∀ line ∈ (getlines '\n' text).tail, 7 ≤ line.length

instance : Decidable (FtBinary data) := inferInstanceAs (Decidable (_ ∧ _))

instance : Decidable (FtCsv text) := inferInstanceAs (Decidable (∀ _ ∈ _, _))

/-- The angle of an index as both loaders read it, a file of version 0 from its start on. -/
def ftAngle (idx : ℕ) : ℤ :=
  if data.version = 0 then data.int16At (2 * idx)
  else data.int32At (PandarFTCorrectionsHeader.sizeofHeader + 4 * idx)

def HoldsBinary : Prop :=
  let h := PandarFTCorrectionsHeader.read data
  ∀ row < h.columnNumber, ∀ col < h.channelNumber,
    c.azimuths col row = ftAngle data (row * h.channelNumber + col) * h.resolution ∧
      c.elevations col row = ftAngle data (h.angleNum + row * h.channelNumber + col) * h.resolution

/-- The rows of the text, over whatever the arrays held before. -/
def HoldsCsv : Prop := ∃ (memory : LoadMemory) (before : PandarFTCorrections),
  c = (before.readLines memory 0 (getlines '\n' text).tail).1

/-- The tables are those of the format that parses, which is the binary one if both do. -/
def HoldsFormat (memory : List UInt8) : Prop :=
  if FtBinary (memoryAt memory) then HoldsBinary (memoryAt memory) c
  else ∃ text, cString memory = some text ∧ HoldsCsv text c

variable {data text c}

lemma readLines_eq (memory : LoadMemory) (n : ℕ) (lines : List (List Char)) : c.readLines memory n lines =
    ((c.readLines memory n lines).1, if ∀ line ∈ lines, 7 ≤ line.length then 0 else -1) := by
  refine Prod.ext rfl ?_
  induction lines generalizing c n with
  | nil => rfl
  | cons line lines ih =>
    rw [PandarFTCorrections.readLines]
    rcases Nat.lt_or_ge line.length 7 with hshort | hlong
    · rw [if_pos hshort]
      exact (if_neg fun h => absurd hshort (not_lt.mpr (h line List.mem_cons_self))).symm
    · simp only [if_neg (not_lt.mpr hlong), List.forall_mem_cons, hlong, true_and]
      exact ih (n + 1)

lemma readRows_eq (memory : LoadMemory) : c.readLines memory 0 (getlines '\n' text).tail =
    ((c.readLines memory 0 (getlines '\n' text).tail).1, if FtCsv text then 0 else -1) :=
  readLines_eq memory 0 (getlines '\n' text).tail

lemma binary_cases {α : Type} (loaded : (ℕ → ℤ) → α) (failed : α) :
    (if data.isDelimited then
      if data.version = 0 then loaded fun idx => data.int16At (2 * idx)
      else if data.version = 1 then loaded fun idx => data.int32At (PandarFTCorrectionsHeader.sizeofHeader + 4 * idx)
      else failed
    else failed) = if FtBinary data then loaded (ftAngle data) else failed := by
  have hangle : ftAngle data = if data.version = 0 then fun idx => data.int16At (2 * idx)
      else fun idx => data.int32At (PandarFTCorrectionsHeader.sizeofHeader + 4 * idx) := by
    funext idx
    rw [ftAngle]
    split_ifs <;> rfl
  rw [hangle]
  split_ifs with hdelimited h0 hbinary h1 <;> simp_all [FtBinary]

end Formats

namespace Udp72Parser

variable {p q : Udp72Parser} {stack : LoadMemory} {memory : List UInt8} {data : CorrectionData} {text : List Char}

lemma dat_eq : p.loadCorrectionDatData data =
    if FtBinary data then ({ p with
      getCorrectionFile := true
      corrections := p.corrections.copyFile (PandarFTCorrectionsHeader.read data) (ftAngle data) }, 0)
    else (p, -1) :=
  binary_cases (fun angles => ({ p with
    getCorrectionFile := true
    corrections := p.corrections.copyFile (PandarFTCorrectionsHeader.read data) angles }, 0)) (p, -1)

lemma csv_eq : p.loadCorrectionCsvData stack text =
    ({ p with
      getCorrectionFile := if FtCsv text then true else p.getCorrectionFile
      corrections := (p.corrections.readLines stack 0 (getlines '\n' text).tail).1 },
      if FtCsv text then 0 else -1) := by
  rw [loadCorrectionCsvData, readRows_eq]
  split_ifs <;> rfl

lemma load_eq : p.loadCorrectionString stack memory =
    if FtBinary (memoryAt memory) then some ({ p with
      getCorrectionFile := true
      corrections := p.corrections.copyFile (PandarFTCorrectionsHeader.read (memoryAt memory))
        (ftAngle (memoryAt memory)) }, 0)
    else (cString memory).map fun text => p.loadCorrectionCsvData stack text := by
  rw [loadCorrectionString, dat_eq]
  split_ifs <;> rfl

lemma loadCorrectionString_accepts_iff : (∃ q, p.loadCorrectionString stack memory = some (q, 0)) ↔
    FtBinary (memoryAt memory) ∨ ∃ text, cString memory = some text ∧ FtCsv text := by
  rw [load_eq]
  by_cases hbinary : FtBinary (memoryAt memory)
  · rw [if_pos hbinary]
    exact iff_of_true ⟨_, rfl⟩ (Or.inl hbinary)
  · rw [if_neg hbinary, or_iff_right hbinary]
    constructor
    · rintro ⟨q, hload⟩
      obtain ⟨text, htext, hcsv⟩ := Option.map_eq_some_iff.mp hload
      refine ⟨text, htext, ?_⟩
      by_contra hshort
      rw [csv_eq, if_neg hshort, if_neg hshort] at hcsv
      exact absurd (Prod.mk.inj hcsv).2 (by decide)
    · rintro ⟨text, htext, hcsv⟩
      rw [htext, Option.map_some, csv_eq, if_pos hcsv, if_pos hcsv]
      exact ⟨_, rfl⟩

end Udp72Parser

/-- The tables that `channel_azimuths_cu_` and `channel_elevations_cu_` point to. -/
structure Udp72ParserGpu where
  correctionsLoaded : Bool
  channels : PandarFTCorrections
deriving Inhabited

/-- What the stack frames of the two loaders hold before anything is stored. -/
structure LoadStack where
  dat : PandarFTCorrections
  csv : PandarFTCorrections
  numbers : LoadMemory
deriving Inhabited

namespace Udp72ParserGpu

def loadCorrectionDatData (stack : LoadStack) (data : CorrectionData) (g : Udp72ParserGpu) : Udp72ParserGpu × ℤ :=
  let h := PandarFTCorrectionsHeader.read data
  let loaded (angles : ℕ → ℤ) : Udp72ParserGpu × ℤ := (⟨true, stack.dat.copyFile h angles⟩, 0)
  if data.isDelimited then
    if data.version = 0 then loaded fun idx => data.int16At (2 * idx)
    else if data.version = 1 then loaded fun idx => data.int32At (PandarFTCorrectionsHeader.sizeofHeader + 4 * idx)
    else (g, -1)
  else (g, -1)

/-- Nothing is copied to the card before a line that is too short. -/
def loadCorrectionCsvData (stack : LoadStack) (text : List Char) (g : Udp72ParserGpu) : Udp72ParserGpu × ℤ :=
  match stack.csv.readLines stack.numbers 0 (getlines '\n' text).tail with
  | (channels, 0) => (⟨true, channels⟩, 0)
  | (_, ret) => (g, ret)

/-- The parser tests the result of the binary loader the other way round. -/
def loadCorrectionString (stack : LoadStack) (memory : List UInt8) (g : Udp72ParserGpu) :
    Option (Udp72ParserGpu × ℤ) :=
  let (loaded, ret) := g.loadCorrectionDatData stack (memoryAt memory)
  if ret ≠ 0 then some (loaded, 0)
  else (cString memory).map fun text => loaded.loadCorrectionCsvData stack text

variable {g : Udp72ParserGpu} {stack : LoadStack} {memory : List UInt8} {data : CorrectionData} {text : List Char}

lemma csv_eq : g.loadCorrectionCsvData stack text =
    if FtCsv text then (⟨true, (stack.csv.readLines stack.numbers 0 (getlines '\n' text).tail).1⟩, 0)
    else (g, -1) := by
  rw [loadCorrectionCsvData, readRows_eq]
  split_ifs <;> rfl

lemma load_eq : g.loadCorrectionString stack memory =
    if FtBinary (memoryAt memory) then (cString memory).map fun text =>
      loadCorrectionCsvData stack text ⟨true, stack.dat.copyFile
        (PandarFTCorrectionsHeader.read (memoryAt memory)) (ftAngle (memoryAt memory))⟩
    else some (g, 0) := by
  have hdat : g.loadCorrectionDatData stack (memoryAt memory) =
      if FtBinary (memoryAt memory) then (⟨true, stack.dat.copyFile
        (PandarFTCorrectionsHeader.read (memoryAt memory)) (ftAngle (memoryAt memory))⟩, 0)
      else (g, -1) := binary_cases (fun angles => (⟨true, stack.dat.copyFile
        (PandarFTCorrectionsHeader.read (memoryAt memory)) angles⟩, 0)) (g, -1)
  rw [loadCorrectionString, hdat]
  split_ifs <;> rfl

lemma load_of_not_binary (g : Udp72ParserGpu) (stack : LoadStack) (h : ¬FtBinary (memoryAt memory)) :
    g.loadCorrectionString stack memory = some (g, 0) := by
  rw [load_eq, if_neg h]

lemma load_of_binary (g : Udp72ParserGpu) (stack : LoadStack) (h : FtBinary (memoryAt memory))
    (htext : cString memory = some text) (hcsv : FtCsv text) :
    g.loadCorrectionString stack memory =
      some (⟨true, (stack.csv.readLines stack.numbers 0 (getlines '\n' text).tail).1⟩, 0) := by
  rw [load_eq, if_pos h, htext, Option.map_some, csv_eq, if_pos hcsv]

lemma csv_of_load {loaded : Udp72ParserGpu} (h : FtBinary (memoryAt memory))
    (hload : g.loadCorrectionString stack memory = some (loaded, 0)) :
    ∃ text, cString memory = some text ∧ FtCsv text := by
  rw [load_eq, if_pos h] at hload
  obtain ⟨text, htext, heq⟩ := Option.map_eq_some_iff.mp hload
  refine ⟨text, htext, ?_⟩
  by_contra hshort
  rw [csv_eq, if_neg hshort] at heq
  exact absurd (Prod.mk.inj heq).2 (by decide)

end Udp72ParserGpu

structure SameLoader (memory : List UInt8) (cpu : Option (Udp72Parser × ℤ)) (gpu : Option (Udp72ParserGpu × ℤ)) :
    Prop where
  accepts : (∃ g, gpu = some (g, 0)) ↔ ∃ q, cpu = some (q, 0)
  loads : ∀ g, gpu = some (g, 0) → g.correctionsLoaded = true ∧ HoldsFormat g.channels memory

namespace Udp72ParserGpu

/-- The loader of the card meets its sibling exactly on a text with rows that are long enough, if it was loaded
already, or if the rows of a text that is a binary file too leave the entries of that file. -/
theorem loadCorrectionString_same_iff (stack : LoadStack) (numbers : LoadMemory) (memory : List UInt8)
    (p : Udp72Parser) (g : Udp72ParserGpu) :
    SameLoader memory (p.loadCorrectionString numbers memory) (g.loadCorrectionString stack memory) ↔
      ∃ text, cString memory = some text ∧ FtCsv text ∧
        if FtBinary (memoryAt memory)
        then HoldsBinary (memoryAt memory) (stack.csv.readLines stack.numbers 0 (getlines '\n' text).tail).1
        else g.correctionsLoaded = true ∧ HoldsCsv text g.channels := by
  by_cases hbinary : FtBinary (memoryAt memory)
  · simp only [if_pos hbinary]
    constructor
    · rintro ⟨haccepts, hloads⟩
      obtain ⟨loaded, hload⟩ := haccepts.mpr (Udp72Parser.loadCorrectionString_accepts_iff.mpr (Or.inl hbinary))
      obtain ⟨text, htext, hcsv⟩ := csv_of_load hbinary hload
      have hholds := (hloads _ (load_of_binary g stack hbinary htext hcsv)).2
      rw [HoldsFormat, if_pos hbinary] at hholds
      exact ⟨text, htext, hcsv, hholds⟩
    · rintro ⟨text, htext, hcsv, hholds⟩
      have hload := load_of_binary g stack hbinary htext hcsv
      constructor
      · exact iff_of_true ⟨_, hload⟩ (Udp72Parser.loadCorrectionString_accepts_iff.mpr (Or.inl hbinary))
      · intro loaded hloaded
        rw [hload] at hloaded
        obtain rfl := (Prod.mk.inj (Option.some.inj hloaded)).1
        rw [HoldsFormat, if_pos hbinary]
        exact ⟨rfl, hholds⟩
  · simp only [if_neg hbinary]
    have hload := load_of_not_binary g stack hbinary
    constructor
    · rintro ⟨haccepts, hloads⟩
      obtain ⟨text, htext, hcsv⟩ :=
        (Udp72Parser.loadCorrectionString_accepts_iff.mp (haccepts.mp ⟨g, hload⟩)).resolve_left hbinary
      obtain ⟨hloaded, hholds⟩ := hloads g hload
      rw [HoldsFormat, if_neg hbinary] at hholds
      obtain ⟨text', htext', htables⟩ := hholds
      obtain rfl := Option.some.inj (htext.symm.trans htext')
      exact ⟨text, htext, hcsv, hloaded, htables⟩
    · rintro ⟨text, htext, hcsv, hloaded, htables⟩
      constructor
      · exact iff_of_true ⟨g, hload⟩
          (Udp72Parser.loadCorrectionString_accepts_iff.mpr (Or.inr ⟨text, htext, hcsv⟩))
      · intro loaded heq
        rw [hload] at heq
        obtain rfl := (Prod.mk.inj (Option.some.inj heq)).1
        rw [HoldsFormat, if_neg hbinary]
        exact ⟨hloaded, text, htext, htables⟩

/-- The text of two lines `L` and `1,1,1,1`, on a card without tables. -/
theorem loadCorrectionString_same_not : ¬∀ (stack : LoadStack) (numbers : LoadMemory) (memory : List UInt8)
    (p : Udp72Parser) (g : Udp72ParserGpu),
    SameLoader memory (p.loadCorrectionString numbers memory) (g.loadCorrectionString stack memory) := by
  intro h
  have hload : (default : Udp72ParserGpu).loadCorrectionString default [76, 10, 49, 44, 49, 44, 49, 44, 49, 0] =
      some (default, 0) := load_of_not_binary default default (by decide)
  obtain ⟨hloaded, -⟩ := (h default default [76, 10, 49, 44, 49, 44, 49, 44, 49, 0] default default).loads _ hload
  exact absurd hloaded (by decide)

end Udp72ParserGpu

end HesaiSdk.Parsing
