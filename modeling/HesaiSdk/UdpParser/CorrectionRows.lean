import HesaiSdk.UdpParser.Correction
import Mathlib.Algebra.CharZero.Infinite
import Mathlib.Data.Fintype.EquivFin
import Mathlib.Tactic.NormNum

/-! Which entries of the correction tables of a CSV file come from the file. -/

namespace HesaiSdk.Parsing

open Library.TextStream

/-- A number is missing where its field has nothing to read it from. -/
structure CorrectionRow where
  laserId : ℤ
  elevation : Option ℚ
  azimuth : Option ℚ
deriving DecidableEq

def correctionRow (line : List Char) : Option CorrectionRow :=
  match getlines ',' line with
  | idField :: elevationField :: azimuthField :: _ =>
    some ⟨(readInt idField).getD 0, readFloat elevationField, readFloat azimuthField⟩
  | _ => none

def dataRows (text : List Char) : List CorrectionRow := ((dataLines text).getD []).filterMap correctionRow

structure FromFile (rows : List CorrectionRow) (c : LoadedCorrection) : Prop where
  size : c.size = rows.length
  present : ∀ i < c.size, ∃ row ∈ rows, row.laserId = i + 1
  entry : ∀ i < c.size, ∀ row ∈ rows, row.laserId = i + 1 →
    row.elevation = some (c.parser.elevationCorrection i) ∧ row.azimuth = some (c.parser.azimuthCollection i)

/-- The laser ids count up from 1, and no elevation or azimuth is missing. -/
def InOrder (rows : List CorrectionRow) : Prop := ∀ (i : ℕ) (row : CorrectionRow), rows[i]? = some row →
  row.laserId = i + 1 ∧ row.elevation.isSome ∧ row.azimuth.isSome

section Rows

variable (memory : LoadMemory)

def storeRow (lists : CorrectionLists) (row : CorrectionRow) : CorrectionLists :=
  let n := lists.lineCount
  if row.laserId = n + 1 ∧ n < 512 then
    { lineCount := n + 1
      elevationList := Function.update lists.elevationList n (row.elevation.getD (memory.elevation (n + 1)))
      azimuthList := Function.update lists.azimuthList n (row.azimuth.getD (memory.azimuth (n + 1))) }
  else { lists with lineCount := n + 1 }

lemma readRow_eq (lists : CorrectionLists) (line : List Char) : readRow memory lists line =
    match correctionRow line with
    | none => lists
    | some row => storeRow memory lists row := by
  match h : getlines ',' line with
  | [] => simp [readRow, correctionRow, h]
  | [_] => simp [readRow, correctionRow, h]
  | [_, _] => simp [readRow, correctionRow, h]
  | idField :: elevationField :: azimuthField :: _ =>
    have hmax : MAX_LASER_NUM = 512 := rfl
    simp only [readRow, correctionRow, h, storeRow]
    generalize (readInt idField).getD 0 = laserId
    by_cases hid : laserId = lists.lineCount + 1 ∧ lists.lineCount < 512
    · obtain ⟨rfl, hn⟩ := hid
      have hrange : ¬(MAX_LASER_NUM < (lists.lineCount : ℤ) + 1 ∨ (lists.lineCount : ℤ) + 1 ≤ 0) := by omega
      have hcount : ¬((lists.lineCount : ℤ) + 1 ≠ (lists.lineCount + 1 : ℕ)) := by omega
      have hindex : ((lists.lineCount : ℤ) + 1 - 1).toNat = lists.lineCount := by omega
      rw [if_neg hrange, if_neg hcount, if_pos ⟨rfl, hn⟩, hindex]
    · rw [if_neg hid]
      by_cases hrange : MAX_LASER_NUM < laserId ∨ laserId ≤ 0
      · rw [if_pos hrange]
      · have hcount : laserId ≠ (lists.lineCount + 1 : ℕ) := by omega
        rw [if_neg hrange, if_pos hcount]

lemma foldl_readRow (lines : List (List Char)) (lists : CorrectionLists) :
    lines.foldl (readRow memory) lists = (lines.filterMap correctionRow).foldl (storeRow memory) lists := by
  induction lines generalizing lists with
  | nil => rfl
  | cons line lines ih =>
    rw [List.foldl_cons, ih, readRow_eq, List.filterMap_cons]
    cases correctionRow line <;> rfl

/-- Entry `k` of a table: the number of row `k` if the row counts, else what the stack held. -/
def rowEntry (field : CorrectionRow → Option ℚ) (unread unset : ℕ → ℚ) (rows : List CorrectionRow) (k : ℕ) : ℚ :=
  match rows[k]? with
  | none => unset k
  | some row => if row.laserId = k + 1 ∧ k < 512 then (field row).getD (unread (k + 1)) else unset k

lemma rowEntry_concat {field : CorrectionRow → Option ℚ} {unread unset : ℕ → ℚ} {rows : List CorrectionRow}
    {row : CorrectionRow} : rowEntry field unread unset (rows ++ [row]) =
      if row.laserId = rows.length + 1 ∧ rows.length < 512 then
        Function.update (rowEntry field unread unset rows) rows.length ((field row).getD (unread (rows.length + 1)))
      else rowEntry field unread unset rows := by
  funext k
  rcases lt_trichotomy k rows.length with hk | rfl | hk
  · have hrow : (rows ++ [row])[k]? = rows[k]? := List.getElem?_append_left hk
    split_ifs
    · rw [Function.update_of_ne hk.ne, rowEntry, hrow, rowEntry]
    · rw [rowEntry, hrow, rowEntry]
  · have hrow : (rows ++ [row])[rows.length]? = some row := List.getElem?_concat_length
    have hnone : rows[rows.length]? = none := List.getElem?_eq_none le_rfl
    split_ifs with hcounts
    · rw [Function.update_self, rowEntry, hrow]
      exact if_pos hcounts
    · rw [rowEntry, hrow, rowEntry, hnone]
      exact if_neg hcounts
  · have hrow : (rows ++ [row])[k]? = none := List.getElem?_eq_none (by simp; omega)
    have hnone : rows[k]? = none := List.getElem?_eq_none (by omega)
    split_ifs
    · rw [Function.update_of_ne hk.ne', rowEntry, hrow, rowEntry, hnone]
    · rw [rowEntry, hrow, rowEntry, hnone]

lemma foldl_storeRow (rows : List CorrectionRow) :
    rows.foldl (storeRow memory) ⟨0, memory.elevationList, memory.azimuthList⟩ =
      ⟨rows.length, rowEntry CorrectionRow.elevation memory.elevation memory.elevationList rows,
        rowEntry CorrectionRow.azimuth memory.azimuth memory.azimuthList rows⟩ := by
  induction rows using List.reverseRecOn with
  | nil => rfl
  | append_singleton rows row ih =>
    rw [List.foldl_append, ih, List.foldl_cons, List.foldl_nil, rowEntry_concat, rowEntry_concat,
      List.length_append, List.length_singleton, storeRow]
    dsimp only
    split_ifs <;> rfl

lemma loadCorrectionString_rows {text : List Char} {p : Calibration} {c : LoadedCorrection}
    (h : loadCorrectionString memory text p = some c) :
    c.ret = 0 ∧ c.size = (dataRows text).length ∧
      c.parser.elevationCorrection =
        rowEntry CorrectionRow.elevation memory.elevation memory.elevationList (dataRows text) ∧
      c.parser.azimuthCollection =
        rowEntry CorrectionRow.azimuth memory.azimuth memory.azimuthList (dataRows text) := by
  obtain ⟨lines, hlines, rfl⟩ := Option.map_eq_some_iff.mp h
  have hrows : dataRows text = lines.filterMap correctionRow := by rw [dataRows, hlines, Option.getD_some]
  dsimp only
  rw [foldl_readRow, foldl_storeRow, hrows]
  exact ⟨rfl, rfl, rfl, rfl⟩

end Rows

section Entries

variable {field : CorrectionRow → Option ℚ} {unread unset : ℕ → ℚ} {rows : List CorrectionRow} {k : ℕ}
  {row : CorrectionRow}

lemma rowEntry_of_read (hrow : rows[k]? = some row) (hid : row.laserId = k + 1) (hk : k < 512)
    (hfield : (field row).isSome) : field row = some (rowEntry field unread unset rows k) := by
  obtain ⟨x, hx⟩ := Option.isSome_iff_exists.mp hfield
  simp only [rowEntry, hrow]
  rw [if_pos ⟨hid, hk⟩, hx, Option.getD_some]

lemma rowEntry_of_unread {v : ℚ} (hrow : rows[k]? = some row) (h : ¬(row.laserId = k + 1 ∧ (field row).isSome)) :
    rowEntry field (fun _ => v) (fun _ => v) rows k = v := by
  simp only [rowEntry, hrow]
  split_ifs with hid
  · have hnone : field row = none := by
      rw [← Option.not_isSome_iff_eq_none]
      exact fun hfield => h ⟨hid.1, hfield⟩
    rw [hnone, Option.getD_none]
  · rfl

lemma exists_foreign (field : CorrectionRow → Option ℚ) (rows : List CorrectionRow) :
    ∃ v : ℚ, ∀ row ∈ rows, field row ≠ some v := by
  obtain ⟨v, hv⟩ := Infinite.exists_notMem_finset (rows.filterMap field).toFinset
  refine ⟨v, fun row hrow hfield => hv ?_⟩
  rw [List.mem_toFinset, List.mem_filterMap]
  exact ⟨row, hrow, hfield⟩

end Entries

lemma fromFile_of_inOrder {memory : LoadMemory} {text : List Char} {p : Calibration} {c : LoadedCorrection}
    (hrows : (dataRows text).length ≤ 512) (horder : InOrder (dataRows text))
    (h : loadCorrectionString memory text p = some c) : FromFile (dataRows text) c := by
  obtain ⟨-, hsize, helevation, hazimuth⟩ := loadCorrectionString_rows memory h
  refine ⟨hsize, fun i hi => ?_, fun i hi row hrow hid => ?_⟩
  · have hget := List.getElem?_eq_getElem (hsize ▸ hi)
    exact ⟨_, List.getElem_mem _, (horder i _ hget).1⟩
  · obtain ⟨k, hk, rfl⟩ := List.getElem_of_mem hrow
    have hget := List.getElem?_eq_getElem hk
    obtain ⟨hid', hpresent⟩ := horder k _ hget
    obtain rfl : k = i := by omega
    rw [helevation, hazimuth]
    exact ⟨rowEntry_of_read hget hid (by omega) hpresent.1, rowEntry_of_read hget hid (by omega) hpresent.2⟩

lemma read_of_fromFile {text : List Char} {i : ℕ} {row : CorrectionRow}
    {field : CorrectionRow → Option ℚ} {v : ℚ} {c : LoadedCorrection}
    (hv : ∀ row ∈ dataRows text, field row ≠ some v) (hrow : (dataRows text)[i]? = some row)
    (hfile : FromFile (dataRows text) c) {table : ℕ → ℚ}
    (htable : table = rowEntry field (fun _ => v) (fun _ => v) (dataRows text))
    (hentry : ∀ row ∈ dataRows text, row.laserId = i + 1 → field row = some (table i)) :
    row.laserId = i + 1 ∧ (field row).isSome := by
  by_contra hunread
  have hi : i < c.size := by
    rw [hfile.size]
    exact (List.getElem?_eq_some_iff.mp hrow).1
  obtain ⟨other, hother, hid⟩ := hfile.present i hi
  have heq := hentry other hother hid
  rw [htable, rowEntry_of_unread hrow hunread] at heq
  exact hv other hother heq

lemma inOrder_of_fromFile {text : List Char} {p : Calibration}
    (hload : ∀ memory c, loadCorrectionString memory text p = some c → c.ret = 0 → FromFile (dataRows text) c) :
    InOrder (dataRows text) := by
  intro i row hrow
  have hlines : (dataLines text).isSome := by
    rw [Option.isSome_iff_ne_none]
    intro hnone
    rw [dataRows, hnone, Option.getD_none, List.filterMap_nil, List.getElem?_nil] at hrow
    contradiction
  obtain ⟨lines, hlines⟩ := Option.isSome_iff_exists.mp hlines
  obtain ⟨v, hv⟩ := exists_foreign CorrectionRow.elevation (dataRows text)
  obtain ⟨w, hw⟩ := exists_foreign CorrectionRow.azimuth (dataRows text)
  let memory : LoadMemory := ⟨fun _ => v, fun _ => w, fun _ => v, fun _ => w⟩
  obtain ⟨c, hc⟩ : ∃ c, loadCorrectionString memory text p = some c := by
    rw [loadCorrectionString, hlines]
    exact ⟨_, rfl⟩
  obtain ⟨hret, hsize, helevation, hazimuth⟩ := loadCorrectionString_rows memory hc
  have hfile := hload memory c hc hret
  have hi : i < c.size := by
    rw [hsize]
    exact (List.getElem?_eq_some_iff.mp hrow).1
  obtain ⟨hid, helevation⟩ := read_of_fromFile hv hrow hfile helevation
    fun row hrow hid => (hfile.entry i hi row hrow hid).1
  obtain ⟨-, hazimuth⟩ := read_of_fromFile hw hrow hfile hazimuth
    fun row hrow hid => (hfile.entry i hi row hrow hid).2
  exact ⟨hid, helevation, hazimuth⟩

/-- Whatever the stack holds, the tables come from the file exactly if its rows are in the order of their laser ids
and none of their numbers is missing. -/
theorem fromFile_iff (text : List Char) (p : Calibration) (hrows : (dataRows text).length ≤ 512) :
    (∀ memory c, loadCorrectionString memory text p = some c → c.ret = 0 → FromFile (dataRows text) c) ↔
      InOrder (dataRows text) :=
  ⟨inOrder_of_fromFile, fun horder _ _ hc _ => fromFile_of_inOrder hrows horder hc⟩

def oneRow (laserId : Char) : List Char := ['L', '\n', laserId, ',', '5', ',', '7']

lemma dataRows_oneRow : dataRows (oneRow '1') = [⟨1, some 5, some 7⟩] ∧
    dataRows (oneRow '2') = [⟨2, some 5, some 7⟩] := by
  constructor <;> decide +kernel

theorem fromFile_first : InOrder (dataRows (oneRow '1')) ∧ ∀ memory c,
    loadCorrectionString memory (oneRow '1') default = some c → c.ret = 0 →
      FromFile (dataRows (oneRow '1')) c := by
  have horder : InOrder (dataRows (oneRow '1')) := by
    rw [dataRows_oneRow.1]
    rintro (_ | i) row hrow
    · obtain rfl : CorrectionRow.mk 1 (some 5) (some 7) = row := Option.some.inj hrow
      exact ⟨rfl, rfl, rfl⟩
    · contradiction
  exact ⟨horder, (fromFile_iff (oneRow '1') default (by rw [dataRows_oneRow.1]; decide)).mpr horder⟩

theorem not_fromFile_second : ¬∀ (text : List Char) (p : Calibration), (dataRows text).length ≤ 512 →
    ∀ memory c, loadCorrectionString memory text p = some c → c.ret = 0 → FromFile (dataRows text) c := by
  intro h
  have horder := inOrder_of_fromFile (h (oneRow '2') default (by rw [dataRows_oneRow.2]; decide))
  rw [dataRows_oneRow.2] at horder
  exact absurd (horder 0 _ rfl).1 (by decide)

end HesaiSdk.Parsing
