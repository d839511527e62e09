import HesaiSdk.Library.TextWriter
import HesaiSdk.UdpParser.BinaryCorrection
import HesaiSdk.UdpParser.ChannelConfig
import HesaiSdk.UdpParser.Correction

/-! The files of firing times and the tables that loading them fills. -/

namespace HesaiSdk.Parsing

open Library Library.ByteLayout Library.TextStream Lidar

section Updates

variable {ι α : Type} [DecidableEq ι]

/-- The last entry of a key counts. -/
lemma foldl_update (rows : List (ι × α)) (table : ι → α) (k : ι) :
    rows.foldl (fun table row => Function.update table row.1 row.2) table k =
      (rows.reverse.lookup k).getD (table k) := by
  induction rows using List.reverseRecOn with
  | nil => rfl
  | append_singleton rows row ih =>
    rw [List.foldl_append, List.foldl_cons, List.foldl_nil, List.reverse_append, List.reverse_singleton,
      List.singleton_append, List.lookup_cons]
    by_cases hk : k = row.1
    · rw [hk, Function.update_self, beq_self_eq_true]
      rfl
    · rw [Function.update_of_ne hk, ih, beq_eq_false_iff_ne.mpr hk]

/-- A pass over the first `n` rows, each of which changes by itself. -/
lemma foldlM_update_row {row : (ℕ → α) → ℕ → Option (ℕ → α)} (change : ℕ → α → α) (n : ℕ) {table : ℕ → α}
    (h : ∀ table, ∀ j < n, row table j = some (Function.update table j (change j (table j)))) :
    (List.range n).foldlM row table = some fun j => if j < n then change j (table j) else table j := by
  induction n with
  | zero => rfl
  | succ n ih =>
    rw [List.range_succ, List.foldlM_append, ih fun table j hj => h table j (by omega)]
    simp only [Option.bind_eq_bind, Option.bind_some, List.foldlM_cons, List.foldlM_nil, h _ n (Nat.lt_succ_self n)]
    refine congrArg some (funext fun j => ?_)
    obtain hj | rfl | hj := lt_trichotomy j n
    · rw [Function.update_of_ne hj.ne, if_pos hj, if_pos (by omega)]
    · rw [Function.update_self, if_neg (lt_irrefl j), if_pos (Nat.lt_succ_self j)]
    · rw [Function.update_of_ne hj.ne', if_neg (by omega), if_neg (by omega)]

end Updates

section Pairs

variable {α : Type} {a b : ℕ → α} {n : ℕ}

lemma length_pairs : ((List.range n).flatMap fun j => [a j, b j]).length = n * 2 := by
  simp [List.length_flatMap]

lemma getElem?_pairs {j : ℕ} (hj : j < n) : ((List.range n).flatMap fun j => [a j, b j])[j * 2]? = some (a j) ∧
    ((List.range n).flatMap fun j => [a j, b j])[j * 2 + 1]? = some (b j) := by
  induction n with
  | zero => exact absurd hj (Nat.not_lt_zero j)
  | succ n ih =>
    rw [List.range_succ, List.flatMap_append, List.flatMap_singleton]
    rcases Nat.lt_succ_iff_lt_or_eq.mp hj with hlt | rfl
    · rw [List.getElem?_append_left (by rw [length_pairs]; omega),
        List.getElem?_append_left (by rw [length_pairs]; omega)]
      exact ih hlt
    · rw [List.getElem?_append_right (by rw [length_pairs]), List.getElem?_append_right (by rw [length_pairs]; omega),
        length_pairs, Nat.sub_self, Nat.add_sub_cancel_left]
      exact ⟨rfl, rfl⟩

end Pairs

namespace GeneralParser

/-- A line of `LoadFiretimesFile`; where the second field is blank, `deltTime` is what the stack holds. -/
def readFiretime (unread : ℚ) (line : List Char) (firetimeCorrection : ℕ → ℚ) : ℕ → ℚ :=
  match getlines ',' line with
  | first :: second :: _ =>
    let laserId := (readInt first).getD 0
    let deltTime := (readFloat second).getD unread
    if MAX_LASER_NUM < laserId ∨ laserId ≤ 0 then firetimeCorrection
    else Function.update firetimeCorrection (laserId - 1).toNat deltTime
  | _ => firetimeCorrection

/-- The lines with what the stack holds at each. -/
def readFiretimes : List (ℚ × List Char) → (ℕ → ℚ) → ℕ → ℚ
  | [], firetimeCorrection => firetimeCorrection
  | (unread, line) :: lines, firetimeCorrection => readFiretimes lines (readFiretime unread line firetimeCorrection)

/-- `LoadFiretimesFile`, which skips the first line. -/
def loadFiretimesFile (unread : ℕ → ℚ) (contents : Option (List Char)) (p : GeneralParser) : GeneralParser :=
  match contents with
  | none => { p with getFiretimeFile := false }
  | some text =>
    let lines := (getlines '\n' text).drop 1
    { p with
      firetimeCorrection := readFiretimes (((List.range lines.length).map unread).zip lines) p.firetimeCorrection
      getFiretimeFile := true }

end GeneralParser

/-- A line of a file of firing times: the time of a laser, or a line with less than two fields, such as a hash. -/
inductive FiretimesLine where
  | time (laserId : ℕ) (deltTime : Decimal) (hid : laserId < 2 ^ 31)
  | other (text : List Char) (hline : '\n' ∉ text) (hfields : (getlines ',' text).length < 2)

namespace FiretimesLine

def write : FiretimesLine → List Char
  | time laserId deltTime _ => writeFields ',' [writeNat laserId, deltTime.write]
  | other text _ _ => text

/-- Laser and time, if the line is one that counts. -/
def entry : FiretimesLine → Option (ℕ × ℚ)
  | time laserId deltTime _ => if laserId = 0 ∨ 512 < laserId then none else some (laserId - 1, deltTime.value)
  | other _ _ _ => none

variable {line : FiretimesLine} {table : ℕ → ℚ} {c : Char}

lemma notMem_fields (laserId : ℕ) (deltTime : Decimal) (hdigit : c.isDigit = false) (hsign : c ≠ '-')
    (hpoint : c ≠ '.') : ∀ field ∈ [writeNat laserId, deltTime.write], c ∉ field := by
  refine List.forall_mem_cons.mpr ⟨(digits_writeNat laserId).notMem hdigit, List.forall_mem_singleton.mpr ?_⟩
  exact deltTime.notMem_write hdigit hsign hpoint

lemma notMem_newline : '\n' ∉ line.write := by
  cases line with
  | time laserId deltTime hid =>
    exact notMem_writeFields (by decide) (notMem_fields laserId deltTime (by decide) (by decide) (by decide))
  | other text hline hfields => exact hline

lemma getlines_time (laserId : ℕ) (deltTime : Decimal) :
    getlines ',' (writeFields ',' [writeNat laserId, deltTime.write]) = [writeNat laserId, deltTime.write] := by
  refine getlines_writeFields (notMem_fields laserId deltTime (by decide) (by decide) (by decide)) ?_
  intro last hlast
  rw [← Option.mem_some.mp hlast]
  exact deltTime.write_ne_nil

lemma readFiretime_write (unread : ℚ) : GeneralParser.readFiretime unread line.write table =
    line.entry.elim table fun entry => Function.update table entry.1 entry.2 := by
  cases line with
  | other text hline hfields =>
    rw [GeneralParser.readFiretime, write]
    split
    · rename_i heq
      rw [heq, List.length_cons, List.length_cons] at hfields
      omega
    · rfl
  | time laserId deltTime hid =>
    simp only [GeneralParser.readFiretime, write, getlines_time, readInt_writeNat hid, deltTime.readFloat_write,
      entry, Option.getD_some, MAX_LASER_NUM]
    by_cases h : laserId = 0 ∨ 512 < laserId
    · rw [if_pos h, if_pos (by omega)]
      rfl
    · rw [if_neg h, if_neg (by omega), Option.elim_some]
      congr 1
      omega

end FiretimesLine

namespace GeneralParser

lemma readFiretimes_write {lines : List FiretimesLine} {unread : List ℚ} (hlength : unread.length = lines.length)
    (table : ℕ → ℚ) : readFiretimes (unread.zip (lines.map FiretimesLine.write)) table =
      (lines.filterMap FiretimesLine.entry).foldl (fun table entry => Function.update table entry.1 entry.2)
        table := by
  induction lines generalizing unread table with
  | nil => rw [List.map_nil, List.zip_nil_right, readFiretimes, List.filterMap_nil, List.foldl_nil]
  | cons line lines ih =>
    cases unread with
    | nil => cases hlength
    | cons first unread =>
      rw [List.map_cons, List.zip_cons_cons, readFiretimes, FiretimesLine.readFiretime_write,
        ih (Nat.succ.inj hlength), List.filterMap_cons]
      cases line.entry <;> rfl

/-- Of the times of a laser the last one counts, a laser without one keeps its own, and nothing else is touched. -/
theorem loadFiretimesFile_write (unread : ℕ → ℚ) (header : { text : List Char // '\n' ∉ text })
    (lines : List FiretimesLine) (p : GeneralParser) :
    let loaded := p.loadFiretimesFile unread (some (writeLines '\n' (header.1 :: lines.map FiretimesLine.write)))
    (∀ laserId speed, (loaded.getFiretimesCorrection laserId speed).val =
      ((lines.filterMap FiretimesLine.entry).reverse.lookup laserId).getD (p.firetimeCorrection laserId) * speed *
        (6 / 1000000)) ∧
      loaded = { p with
        firetimeCorrection := loaded.firetimeCorrection
        getFiretimeFile := true } := by
  have hlines : ∀ line ∈ header.1 :: lines.map FiretimesLine.write, '\n' ∉ line := by
    refine List.forall_mem_cons.mpr ⟨header.2, fun line hline => ?_⟩
    obtain ⟨line, -, rfl⟩ := List.mem_map.mp hline
    exact line.notMem_newline
  intro loaded
  have htable : loaded.firetimeCorrection =
      (lines.filterMap FiretimesLine.entry).foldl (fun table entry => Function.update table entry.1 entry.2)
        p.firetimeCorrection := by
    simp only [loaded, loadFiretimesFile, getlines_writeLines hlines, List.drop_succ_cons, List.drop_zero]
    exact readFiretimes_write (by simp) _
  refine ⟨fun laserId speed => ?_, rfl⟩
  rw [← foldl_update, ← htable]
  rfl

end GeneralParser

namespace Udp32Parser

def HS_LIDAR_QT128_LOOP_NUM : ℤ := 4

/-- One column of a line; none where `stof` throws. `atoi` is undefined outside of `int`, and else like `readInt`. -/
def storeFiretime (channelLine : List (List Char)) (firetimes : ℕ → ℤ → ℚ) (j : ℕ) : Option (ℕ → ℤ → ℚ) := do
  let laserId := (readInt (channelLine.getD (j * 2) [])).getD 0 - 1
  let firetime ← stof (channelLine.getD (j * 2 + 1) [])
  some (if 0 ≤ laserId ∧ laserId < HS_LIDAR_QT128_LASER_NUM
    then Function.update firetimes j (Function.update (firetimes j) laserId firetime) else firetimes)

/-- The loop over the lasers, without a table where a line has the wrong number of fields. -/
def storeFiretimes (loopNum : ℕ) : List (List Char) → (ℕ → ℤ → ℚ) → Option (Option (ℕ → ℤ → ℚ))
  | [], firetimes => some (some firetimes)
  | line :: lines, firetimes =>
    let channelLine := getlines ',' line
    if 0 < loopNum ∧ channelLine.length ≠ loopNum * 2 then some none
    else do
      let stored ← (List.range loopNum).foldlM (storeFiretime channelLine) firetimes
      storeFiretimes loopNum lines stored

/-- `LoadFiretimesString` on the characters before the terminating zero; none where a field is missing or `stof`
throws. -/
def loadFiretimesString (text : List Char) (p : Udp32Parser) : Option (Udp32Parser × ℤ) := do
  let line (n : ℕ) : List (List Char) := getlines ',' (nthGetline '\n' text n)
  let delimiter ← (line 0)[0]?
  if delimiter = ['E', 'E', 'F', 'F'] ∨ delimiter = ['e', 'e', 'f', 'f'] then
    let loopNum ← (line 1)[3]?
    let loopNum := (readInt loopNum).getD 0
    if HS_LIDAR_QT128_LOOP_NUM < loopNum then some (p, -1)
    else
      let stored ← storeFiretimes loopNum.toNat
        ((List.range HS_LIDAR_QT128_LASER_NUM).map fun i => nthGetline '\n' text (3 + i)) fun _ _ => 0
      match stored with
      | some firetimes =>
        some ({ p with
          qt128Firetime := firetimes
          getFiretimeFile := true }, 0)
      | none => some (p, -1)
  else some (p, -1)

end Udp32Parser

/-- Text without a line break or a comma. -/
abbrev FieldText : Type := { text : List Char // '\n' ∉ text ∧ ',' ∉ text }

/-- A file of firing times of the QT128; `laserId` and `firetime` are by line and loop. -/
structure Qt128FiretimesFile where
  lower : Bool
  version : { text : List Char // '\n' ∉ text }
  config : FieldText × FieldText × FieldText
  loopNum : ℕ
  columns : { text : List Char // '\n' ∉ text }
  laserId : ℕ → ℕ → ℕ
  firetime : ℕ → ℕ → FloatDecimal
  hashValue : List Char
  loopNum_le : loopNum ≤ 4
  laserId_lt : ∀ i j, laserId i j < 2 ^ 31

namespace Qt128FiretimesFile

variable (f : Qt128FiretimesFile)

def delimiter : List Char := if f.lower then ['e', 'e', 'f', 'f'] else ['E', 'E', 'F', 'F']

def loopLine : List (List Char) := [f.config.1.1, f.config.2.1.1, f.config.2.2.1, writeNat f.loopNum]

def pair (i j : ℕ) : List (List Char) := [writeNat (f.laserId i j), (f.firetime i j).write]

def channelLine (i : ℕ) : List (List Char) := (List.range f.loopNum).flatMap (f.pair i)

def lines : List (List Char) :=
  [f.delimiter ++ ',' :: f.version.1, writeFields ',' f.loopLine, f.columns.1] ++
    (List.range HS_LIDAR_QT128_LASER_NUM).map fun i => writeFields ',' (f.channelLine i)

def write : List Char := writeLines '\n' f.lines ++ f.hashValue

/-- Laser and time, if there is such a laser. -/
def entry (i j : ℕ) : Option (ℤ × ℚ) :=
  if 1 ≤ f.laserId i j ∧ f.laserId i j ≤ HS_LIDAR_QT128_LASER_NUM
  then some (f.laserId i j - 1, (f.firetime i j).value) else none

def column (rows : List ℕ) (j : ℕ) : List (ℤ × ℚ) :=
  if j < f.loopNum then rows.filterMap fun i => f.entry i j else []

section Load

variable {f} {i j n : ℕ} {c : Char}

lemma mem_pair (hdigit : c.isDigit = false) (hsign : c ≠ '-') (hpoint : c ≠ '.') :
    ∀ field ∈ f.pair i j, c ∉ field :=
  FiretimesLine.notMem_fields (f.laserId i j) (f.firetime i j).toDecimal hdigit hsign hpoint

lemma notMem_channelLine (hdigit : c.isDigit = false) (hsign : c ≠ '-') (hpoint : c ≠ '.') :
    ∀ field ∈ f.channelLine i, c ∉ field := by
  intro field hfield
  obtain ⟨j, -, hfield⟩ := List.mem_flatMap.mp hfield
  exact mem_pair hdigit hsign hpoint field hfield

lemma ne_nil_of_mem_channelLine : ∀ field ∈ f.channelLine i, field ≠ [] := by
  intro field hfield
  obtain ⟨j, -, hfield⟩ := List.mem_flatMap.mp hfield
  rcases List.mem_pair.mp hfield with rfl | rfl
  · exact writeNat_ne_nil _
  · exact (f.firetime i j).write_ne_nil

lemma getlines_channelLine : getlines ',' (writeFields ',' (f.channelLine i)) = f.channelLine i :=
  getlines_writeFields (notMem_channelLine (by decide) (by decide) (by decide)) fun last hlast =>
    ne_nil_of_mem_channelLine last (List.mem_of_getLast? hlast)

lemma getlines_loopLine : getlines ',' (writeFields ',' f.loopLine) = f.loopLine := by
  refine getlines_writeFields (fun field hfield => ?_) fun last hlast => ?_
  · simp only [loopLine, List.mem_cons, List.not_mem_nil, or_false] at hfield
    obtain rfl | rfl | rfl | rfl := hfield
    · exact f.config.1.2.2
    · exact f.config.2.1.2.2
    · exact f.config.2.2.2.2
    · exact (digits_writeNat f.loopNum).notMem (by decide)
  · rw [← Option.mem_some.mp hlast]
    exact writeNat_ne_nil _

lemma notMem_newline : ∀ line ∈ f.lines, '\n' ∉ line := by
  intro line hline
  rcases List.mem_append.mp hline with hline | hline
  · simp only [List.mem_cons, List.not_mem_nil, or_false] at hline
    obtain rfl | rfl | rfl := hline
    · rw [List.mem_append, List.mem_cons, not_or, not_or, delimiter]
      exact ⟨by split_ifs <;> decide, by decide, f.version.2⟩
    · refine notMem_writeFields (by decide) fun field hfield => ?_
      simp only [loopLine, List.mem_cons, List.not_mem_nil, or_false] at hfield
      obtain rfl | rfl | rfl | rfl := hfield
      · exact f.config.1.2.1
      · exact f.config.2.1.2.1
      · exact f.config.2.2.2.1
      · exact (digits_writeNat f.loopNum).notMem (by decide)
    · exact f.columns.2
  · obtain ⟨i, -, rfl⟩ := List.mem_map.mp hline
    exact notMem_writeFields (by decide) (notMem_channelLine (by decide) (by decide) (by decide))

lemma storeFiretime_channelLine (table : ℕ → ℤ → ℚ) (hj : j < f.loopNum) :
    Udp32Parser.storeFiretime (f.channelLine i) table j = some (Function.update table j
      ((f.entry i j).elim (table j) fun entry => Function.update (table j) entry.1 entry.2)) := by
  obtain ⟨hid, htime⟩ := getElem?_pairs (a := fun j => writeNat (f.laserId i j))
    (b := fun j => (f.firetime i j).write) hj
  have hid : (f.channelLine i).getD (j * 2) [] = writeNat (f.laserId i j) := by
    rw [List.getD_eq_getElem?_getD]
    exact congrArg (Option.getD · []) hid
  have htime : (f.channelLine i).getD (j * 2 + 1) [] = (f.firetime i j).write := by
    rw [List.getD_eq_getElem?_getD]
    exact congrArg (Option.getD · []) htime
  rw [Udp32Parser.storeFiretime, hid, htime, (f.firetime i j).stof_write, readInt_writeNat (f.laserId_lt i j),
    Option.getD_some, entry]
  by_cases h : 1 ≤ f.laserId i j ∧ f.laserId i j ≤ HS_LIDAR_QT128_LASER_NUM
  · rw [if_pos h]
    exact congrArg some (if_pos (by omega))
  · rw [if_neg h, Option.elim_none, Function.update_eq_self]
    exact congrArg some (if_neg (by omega))

lemma storeFiretimes_channelLine (rows : List ℕ) (table : ℕ → ℤ → ℚ) :
    Udp32Parser.storeFiretimes f.loopNum (rows.map fun i => writeFields ',' (f.channelLine i)) table =
      some (some fun j =>
        (f.column rows j).foldl (fun row entry => Function.update row entry.1 entry.2) (table j)) := by
  induction rows generalizing table with
  | nil =>
    rw [List.map_nil, Udp32Parser.storeFiretimes]
    refine congrArg (some ∘ some) (funext fun j => ?_)
    rw [column, List.filterMap_nil, ite_self, List.foldl_nil]
  | cons i rows ih =>
    have hlength : (f.channelLine i).length = f.loopNum * 2 := length_pairs
    rw [List.map_cons, Udp32Parser.storeFiretimes]
    simp only [getlines_channelLine, hlength, ne_eq, not_true_eq_false, and_false, if_false]
    rw [foldlM_update_row (fun j row => (f.entry i j).elim row fun entry => Function.update row entry.1 entry.2)
      f.loopNum fun table j hj => storeFiretime_channelLine table hj, Option.bind_eq_bind, Option.bind_some, ih]
    refine congrArg (some ∘ some) (funext fun j => ?_)
    rw [column, column]
    by_cases hj : j < f.loopNum
    · rw [if_pos hj, if_pos hj, if_pos hj, List.filterMap_cons]
      cases f.entry i j <;> rfl
    · rw [if_neg hj, if_neg hj, if_neg hj]

lemma length_lines : f.lines.length = 3 + HS_LIDAR_QT128_LASER_NUM := by
  rw [lines, List.length_append, List.length_map, List.length_range]
  rfl

lemma nthGetline_lines (hn : n < f.lines.length) : nthGetline '\n' f.write n = f.lines[n] :=
  nthGetline_writeLines notMem_newline _ hn

lemma nthGetline_channelLine (hi : i < HS_LIDAR_QT128_LASER_NUM) :
    nthGetline '\n' f.write (3 + i) = writeFields ',' (f.channelLine i) := by
  rw [nthGetline_lines (by rw [length_lines]; omega)]
  simp only [lines]
  rw [List.getElem_append_right (by simp)]
  simp

end Load

/-- The time of a laser in a loop is the last one that the file has for it, and 0 where it has none. -/
theorem loadFiretimesString_write (p : Udp32Parser) : ∃ loaded, p.loadFiretimesString f.write = some (loaded, 0) ∧
    (∀ laserId speed loopIndex, loaded.getFiretimesCorrection laserId speed loopIndex =
      ((f.column (List.range HS_LIDAR_QT128_LASER_NUM) loopIndex).reverse.lookup laserId).getD 0 * speed *
        (6 / 1000000)) ∧
    loaded = { p with
      qt128Firetime := loaded.qt128Firetime
      getFiretimeFile := true } := by
  have hrows : ((List.range HS_LIDAR_QT128_LASER_NUM).map fun i => nthGetline '\n' f.write (3 + i)) =
      (List.range HS_LIDAR_QT128_LASER_NUM).map fun i => writeFields ',' (f.channelLine i) :=
    List.map_congr_left fun i hi => nthGetline_channelLine (List.mem_range.mp hi)
  have hfirst : getlines ',' (nthGetline '\n' f.write 0) = f.delimiter :: getlines ',' f.version.1 := by
    rw [nthGetline_lines (by rw [length_lines]; decide)]
    exact getlines_append_delimiter (by rw [delimiter]; split_ifs <;> decide) _
  have hsecond : getlines ',' (nthGetline '\n' f.write 1) = f.loopLine := by
    rw [nthGetline_lines (by rw [length_lines]; decide)]
    exact getlines_loopLine
  have hdelimiter : f.delimiter = ['E', 'E', 'F', 'F'] ∨ f.delimiter = ['e', 'e', 'f', 'f'] := by
    rw [delimiter]
    split_ifs
    · exact Or.inr rfl
    · exact Or.inl rfl
  have hloop : (readInt (writeNat f.loopNum)).getD 0 = f.loopNum := by
    rw [readInt_writeNat (f.loopNum_le.trans_lt (by decide)), Option.getD_some]
  have hle := f.loopNum_le
  refine ⟨{ p with
    qt128Firetime := fun j => (f.column (List.range HS_LIDAR_QT128_LASER_NUM) j).foldl
      (fun row entry => Function.update row entry.1 entry.2) fun _ => 0
    getFiretimeFile := true }, ?_, fun laserId speed loopIndex => ?_, rfl⟩
  · rw [Udp32Parser.loadFiretimesString]
    simp only [hfirst, hsecond, List.getElem?_cons_zero, Option.bind_eq_bind, Option.bind_some, if_pos hdelimiter,
      loopLine, List.getElem?_cons_succ, hloop, Int.toNat_natCast, hrows, storeFiretimes_channelLine]
    exact if_neg (by rw [Udp32Parser.HS_LIDAR_QT128_LOOP_NUM]; omega)
  · have hread := foldl_update (f.column (List.range HS_LIDAR_QT128_LASER_NUM) loopIndex) (fun _ => 0) laserId
    exact congrArg (· * speed * (6 / 1000000)) hread

end Qt128FiretimesFile

end HesaiSdk.Parsing
