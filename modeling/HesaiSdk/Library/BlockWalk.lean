import HesaiSdk.Library.Logged
import Mathlib.Data.List.Count
import Mathlib.Logic.Function.Basic
import Mathlib.Tactic.Ring

/-! Pointer walks over a packed body: blocks of one head and `width` units, each unit filling the
next slot of an array. -/

namespace Library.BlockWalk

variable {ε Slot Head Acc : Type}

structure BlockReader (ε Slot Head Acc : Type) where
  headSize : ℕ
  unitSize : ℕ
  readHead : ℕ → ℕ → Logged ε Head
  writeUnit : Head → ℕ → ℕ → Slot → Logged ε Slot
  written : ℕ → ε
  finishBlock : Head → Acc → Acc

structure Cursor (Slot : Type) where
  offset : ℕ
  index : ℕ
  slots : ℕ → Slot

lemma div_mod_row (b : ℕ) {w j : ℕ} (hj : j < w) : (b * w + j) / w = b ∧ (b * w + j) % w = j := by
  rw [Nat.mul_comm]
  refine ⟨?_, ?_⟩
  · rw [Nat.mul_add_div (Nat.zero_lt_of_lt hj), Nat.div_eq_of_lt hj, Nat.add_zero]
  · rw [Nat.mul_add_mod, Nat.mod_eq_of_lt hj]

lemma div_mod_unit (o n : ℕ) {w j : ℕ} (hj : j < w) :
    (o + w * n + j - o) / w = n ∧ (o + w * n + j - o) % w = j := by
  rw [Nat.add_assoc, Nat.add_sub_cancel_left, Nat.mul_comm]
  exact div_mod_row n hj

namespace BlockReader

variable (r : BlockReader ε Slot Head Acc)

def unitStep (h : Head) (j : ℕ) (c : Cursor Slot) : Logged ε (Cursor Slot) := do
  let slot ← r.writeUnit h j c.offset (c.slots c.index)
  note (r.written c.index)
  pure ⟨c.offset + r.unitSize, c.index + 1, Function.update c.slots c.index slot⟩

def blockStep (width b : ℕ) (c : Cursor Slot × Acc) : Logged ε (Cursor Slot × Acc) := do
  let h ← r.readHead b c.1.offset
  let units ← loop (r.unitStep h) width ⟨c.1.offset + r.headSize, c.1.index, c.1.slots⟩
  pure (⟨c.1.offset + (r.headSize + r.unitSize * width), units.index, units.slots⟩, r.finishBlock h c.2)

def walk (width blocks : ℕ) (c : Cursor Slot × Acc) : Logged ε (Cursor Slot × Acc) :=
  loop (r.blockStep width) blocks c

lemma units_val (h : Head) (n o i : ℕ) (s : ℕ → Slot) :
    (loop (r.unitStep h) n ⟨o, i, s⟩).val = ⟨o + r.unitSize * n, i + n, fun k =>
      if i ≤ k ∧ k < i + n then (r.writeUnit h (k - i) (o + r.unitSize * (k - i)) (s k)).val
      else s k⟩ := by
  induction n with
  | zero =>
    have hs : s = fun k => if i ≤ k ∧ k < i + 0
        then (r.writeUnit h (k - i) (o + r.unitSize * (k - i)) (s k)).val else s k :=
      funext fun k => by rw [if_neg (by omega)]
    simpa using hs
  | succ n ih =>
    rw [val_loop_succ, ih]
    simp only [unitStep, val_bind, val_pure, Cursor.mk.injEq]
    refine ⟨by ring, by omega, funext fun k => ?_⟩
    rcases eq_or_ne k (i + n) with rfl | hk
    · simp
    · have hc : i ≤ k ∧ k < i + n ↔ i ≤ k ∧ k < i + (n + 1) := by omega
      simp only [Function.update_of_ne hk, hc]

lemma mem_log_units {h : Head} {n o i : ℕ} {s : ℕ → Slot} {e : ε} :
    e ∈ (loop (r.unitStep h) n ⟨o, i, s⟩).log ↔ ∃ j < n,
      e ∈ (r.writeUnit h j (o + r.unitSize * j) (s (i + j))).log ∨ e = r.written (i + j) := by
  rw [mem_log_loop]
  simp only [units_val, unitStep, log_bind, log_note, log_pure, List.append_nil, List.mem_append,
    List.mem_singleton, lt_irrefl, and_false, if_false]

def blockOffset (width o b : ℕ) : ℕ := o + (r.headSize + r.unitSize * width) * b

def headAt (width o b : ℕ) : Head := (r.readHead b (r.blockOffset width o b)).val

def unitAt (width o b j : ℕ) (old : Slot) : Logged ε Slot :=
  r.writeUnit (r.headAt width o b) j (r.blockOffset width o b + r.headSize + r.unitSize * j) old

def filled (width blocks o i : ℕ) (s : ℕ → Slot) (k : ℕ) : Slot :=
  if i ≤ k ∧ k < i + width * blocks
  then (r.unitAt width o ((k - i) / width) ((k - i) % width) (s k)).val else s k

def finishBlocks (width o : ℕ) (a : Acc) : ℕ → Acc
  | 0 => a
  | n + 1 => r.finishBlock (r.headAt width o n) (finishBlocks width o a n)

lemma walk_val (width n o i : ℕ) (s : ℕ → Slot) (a : Acc) :
    (r.walk width n (⟨o, i, s⟩, a)).val =
      (⟨r.blockOffset width o n, i + width * n, r.filled width n o i s⟩, r.finishBlocks width o a n) := by
  induction n with
  | zero =>
    have hs : s = r.filled width 0 o i s := funext fun k => by rw [filled, if_neg (by omega)]
    exact Prod.ext (by simpa [walk, blockOffset] using hs) rfl
  | succ n ih =>
    rw [walk] at ih
    rw [walk, val_loop_succ, ih]
    simp only [blockStep, val_bind, val_pure, units_val]
    refine Prod.ext ?_ rfl
    simp only [Cursor.mk.injEq]
    refine ⟨by simp only [blockOffset]; ring, by ring, funext fun k => ?_⟩
    have hw : width * (n + 1) = width * n + width := by ring
    rcases lt_or_ge k (i + width * n) with hk | hk
    · have hc : i ≤ k ∧ k < i + width * n ↔ i ≤ k ∧ k < i + width * (n + 1) := by omega
      rw [if_neg (by omega)]
      simp only [filled, hc]
    · by_cases hu : k < i + width * n + width
      · obtain ⟨j, rfl⟩ := Nat.exists_eq_add_of_le hk
        have hj : j < width := by omega
        obtain ⟨hd, hm⟩ := div_mod_unit i n hj
        rw [if_pos (by omega), filled, filled, if_neg (by omega), if_pos (by omega), hd, hm,
          Nat.add_sub_cancel_left]
        rfl
      · rw [if_neg (by omega), filled, filled, if_neg (by omega), if_neg (by omega)]

lemma filled_unit {width blocks o i : ℕ} {s : ℕ → Slot} {b j : ℕ} (hb : b < blocks) (hj : j < width) :
    r.filled width blocks o i s (i + b * width + j) =
      (r.unitAt width o b j (s (i + b * width + j))).val := by
  have hk : b * width + j < width * blocks := calc
    b * width + j < b * width + width := by omega
    _ = width * (b + 1) := by ring
    _ ≤ width * blocks := Nat.mul_le_mul_left _ hb
  obtain ⟨hd, hm⟩ := div_mod_unit i b hj
  rw [Nat.mul_comm] at hd hm
  rw [filled, if_pos (by omega), hd, hm]

lemma filled_of_lt {width blocks o i k : ℕ} {s : ℕ → Slot} (h : k < i) :
    r.filled width blocks o i s k = s k := by
  rw [filled, if_neg (by omega)]

lemma filled_of_ge {width blocks o i k : ℕ} {s : ℕ → Slot} (h : i + width * blocks ≤ k) :
    r.filled width blocks o i s k = s k := by
  rw [filled, if_neg (by omega)]

lemma mem_log_walk {width n o i : ℕ} {s : ℕ → Slot} {a : Acc} {e : ε} :
    e ∈ (r.walk width n (⟨o, i, s⟩, a)).log ↔ ∃ b < n,
      e ∈ (r.readHead b (r.blockOffset width o b)).log ∨ ∃ j < width,
        e ∈ (r.unitAt width o b j (s (i + width * b + j))).log ∨ e = r.written (i + width * b + j) := by
  rw [walk, mem_log_loop]
  refine exists_congr fun b => and_congr_right fun _ => ?_
  have hv := r.walk_val width b o i s a
  rw [walk] at hv
  rw [hv]
  simp only [blockStep, log_bind, log_pure, List.append_nil, List.mem_append, mem_log_units]
  refine or_congr_right (exists_congr fun j => and_congr_right fun hj => ?_)
  rw [r.filled_of_ge (by omega)]
  rfl

lemma allLog_walk {P : ε → Prop} {width n o i : ℕ} {s : ℕ → Slot} {a : Acc} :
    AllLog P (r.walk width n (⟨o, i, s⟩, a)) ↔ ∀ b < n,
      AllLog P (r.readHead b (r.blockOffset width o b)) ∧ ∀ j < width,
        AllLog P (r.unitAt width o b j (s (i + width * b + j))) ∧ P (r.written (i + width * b + j)) := by
  simp only [AllLog, mem_log_walk]
  constructor
  · intro h b hb
    refine ⟨fun e he => h e ⟨b, hb, Or.inl he⟩, fun j hj => ⟨fun e he => ?_, ?_⟩⟩
    · exact h e ⟨b, hb, Or.inr ⟨j, hj, Or.inl he⟩⟩
    · exact h _ ⟨b, hb, Or.inr ⟨j, hj, Or.inr rfl⟩⟩
  · rintro h e ⟨b, hb, he | ⟨j, hj, he | rfl⟩⟩
    · exact (h b hb).1 e he
    · exact ((h b hb).2 j hj).1 e he
    · exact ((h b hb).2 j hj).2

end BlockReader

section Prefix

variable (base : ℕ) (cell : ℕ → Slot → Slot)

def fillTo (n : ℕ) (s : ℕ → Slot) (k : ℕ) : Slot :=
  if base ≤ k ∧ k < base + n then cell (k - base) (s k) else s k

variable {base cell} {n : ℕ} {s : ℕ → Slot}

@[simp] lemma fillTo_zero : fillTo base cell 0 s = s := by
  funext k
  rw [fillTo, if_neg (by omega)]

lemma fillTo_of_lt {k : ℕ} (h : k < base) : fillTo base cell n s k = s k := by
  rw [fillTo, if_neg (by omega)]

lemma fillTo_of_ge {k : ℕ} (h : base + n ≤ k) : fillTo base cell n s k = s k := by
  rw [fillTo, if_neg (by omega)]

lemma fillTo_cell {j : ℕ} (h : j < n) : fillTo base cell n s (base + j) = cell j (s (base + j)) := by
  rw [fillTo, if_pos (by omega), Nat.add_sub_cancel_left]

variable (base cell n s) in
lemma fillTo_succ : Function.update (fillTo base cell n s) (base + n) (cell n (s (base + n))) =
    fillTo base cell (n + 1) s := by
  funext k
  rcases eq_or_ne k (base + n) with rfl | hk
  · rw [Function.update_self, fillTo_cell (Nat.lt_succ_self n)]
  · have hc : base ≤ k ∧ k < base + n ↔ base ≤ k ∧ k < base + (n + 1) := by omega
    simp only [Function.update_of_ne hk, fillTo, hc]

lemma update_fillTo_of_lt {k : ℕ} (h : k < base) (slot : Slot) :
    Function.update (fillTo base cell n s) k slot = fillTo base cell n (Function.update s k slot) := by
  funext j
  rcases eq_or_ne j k with rfl | hj
  · rw [Function.update_self, fillTo_of_lt h, Function.update_self]
  · simp only [Function.update_of_ne hj, fillTo]

lemma flatMap_range' (width blocks : ℕ) :
    ((List.range blocks).flatMap fun b => List.range' (base + b * width) width) =
      List.range' base (blocks * width) := by
  induction blocks with
  | zero => simp
  | succ n ih =>
    rw [List.range_succ, List.flatMap_append, ih, List.flatMap_singleton, List.range'_append_1, Nat.succ_mul]

end Prefix

section Grid

variable (written : ℕ → ε) (base width : ℕ)

def fillRow (cell : ℕ → Slot → Slot) (s : ℕ → Slot) : Logged ε (ℕ → Slot) :=
  loop (fun i s => do
    note (written (base + i))
    pure (Function.update s (base + i) (cell i (s (base + i))))) width s

def fillGrid (row : ℕ → Option (ℕ → Slot → Slot)) (blocks : ℕ) (s : ℕ → Slot) : Logged ε (ℕ → Slot) :=
  loop (fun b s => match row b with
    | none => ⟨s, []⟩
    | some cell => fillRow written (base + b * width) width cell s) blocks s

def grid (row : ℕ → Option (ℕ → Slot → Slot)) (blocks : ℕ) (s : ℕ → Slot) (k : ℕ) : Slot :=
  if base ≤ k ∧ k < base + blocks * width then
    match row ((k - base) / width) with
    | none => s k
    | some cell => cell ((k - base) % width) (s k)
  else s k

lemma fillRow_val (cell : ℕ → Slot → Slot) (s : ℕ → Slot) :
    (fillRow written base width cell s).val = fun k =>
      if base ≤ k ∧ k < base + width then cell (k - base) (s k) else s k := by
  rw [fillRow]
  induction width with
  | zero =>
    funext k
    rw [loop_zero, if_neg (by omega)]
  | succ n ih =>
    rw [val_loop_succ, ih]
    funext k
    simp only [val_bind, val_pure]
    rcases eq_or_ne k (base + n) with rfl | hk
    · simp
    · have hc : base ≤ k ∧ k < base + n ↔ base ≤ k ∧ k < base + (n + 1) := by omega
      simp only [Function.update_of_ne hk, hc]

lemma fillRow_log (cell : ℕ → Slot → Slot) (s : ℕ → Slot) :
    (fillRow written base width cell s).log = (List.range' base width).map written := by
  rw [fillRow]
  induction width with
  | zero => rfl
  | succ n ih => simp [log_loop_succ, ih, List.range'_concat]

lemma fillGrid_val (row : ℕ → Option (ℕ → Slot → Slot)) (blocks : ℕ) (s : ℕ → Slot) :
    (fillGrid written base width row blocks s).val = grid base width row blocks s := by
  rw [fillGrid]
  induction blocks with
  | zero =>
    funext k
    rw [loop_zero, grid, if_neg (by omega)]
  | succ n ih =>
    rw [val_loop_succ, ih]
    funext k
    have hw : (n + 1) * width = n * width + width := by ring
    have hout : k < base + n * width ∨ base + n * width + width ≤ k →
        grid base width row n s k = grid base width row (n + 1) s k := by
      rintro (h | h)
      · have hc : base ≤ k ∧ k < base + n * width ↔ base ≤ k ∧ k < base + (n + 1) * width := by omega
        simp only [grid, hc]
      · rw [grid, grid, if_neg (by omega), if_neg (by omega)]
    by_cases hk : base + n * width ≤ k ∧ k < base + n * width + width
    · obtain ⟨i, rfl⟩ := Nat.exists_eq_add_of_le hk.1
      have hi : i < width := by omega
      obtain ⟨hd, hm⟩ := div_mod_unit base n hi
      rw [Nat.mul_comm width n] at hd hm
      have hold : grid base width row n s (base + n * width + i) = s (base + n * width + i) := by
        rw [grid, if_neg (by omega)]
      rw [grid, if_pos (by omega), hd, hm]
      cases hr : row n with
      | none => simp only [hold]
      | some cell =>
        simp only [fillRow_val]
        rw [if_pos hk, hold, Nat.add_sub_cancel_left]
    · rw [← hout (by omega)]
      cases hr : row n with
      | none => rfl
      | some cell =>
        simp only [fillRow_val]
        rw [if_neg hk]

lemma fillGrid_log {row : ℕ → Option (ℕ → Slot → Slot)} {blocks : ℕ} (s : ℕ → Slot)
    (hr : ∀ b < blocks, (row b).isSome) :
    (fillGrid written base width row blocks s).log =
      (List.range' base (blocks * width)).map written := by
  rw [fillGrid]
  induction blocks with
  | zero => simp
  | succ n ih =>
    obtain ⟨cell, hcell⟩ := Option.isSome_iff_exists.mp (hr n (Nat.lt_succ_self n))
    rw [log_loop_succ, ih fun b hb => hr b (Nat.lt_succ_of_lt hb)]
    simp only [hcell, fillRow_log]
    rw [Nat.succ_mul, ← List.range'_append_1, List.map_append]

lemma fillGrid_one (cell : ℕ → ℕ → Slot → Slot) (s : ℕ → Slot) :
    fillGrid written base width (fun b => some (cell b)) 1 s = fillRow written base width (cell 0) s := by
  show fillRow written (base + 0 * width) width (cell 0) s = _
  rw [Nat.zero_mul, Nat.add_zero]

lemma fillGrid_skipped {row : ℕ → Option (ℕ → Slot → Slot)} {blocks b i : ℕ} {s : ℕ → Slot} (hi : i < width)
    (hrow : row b = none) :
    (fillGrid written base width row blocks s).val (base + b * width + i) = s (base + b * width + i) := by
  obtain ⟨hd, -⟩ := div_mod_unit base b hi
  rw [Nat.mul_comm width b] at hd
  rw [fillGrid_val, grid, hd, hrow]
  split_ifs <;> rfl

lemma mem_fillGrid_log {row : ℕ → Option (ℕ → Slot → Slot)} {blocks : ℕ} {s : ℕ → Slot} {e : ε} :
    e ∈ (fillGrid written base width row blocks s).log ↔
      ∃ b < blocks, (row b).isSome = true ∧ ∃ i < width, e = written (base + b * width + i) := by
  rw [fillGrid]
  induction blocks with
  | zero => simp
  | succ n ih =>
    rw [log_loop_succ, List.mem_append, ih]
    constructor
    · rintro (⟨b, hb, hrow⟩ | hlast)
      · exact ⟨b, Nat.lt_succ_of_lt hb, hrow⟩
      · cases hr : row n with
        | none => simp [hr] at hlast
        | some cell =>
          simp only [hr, fillRow_log, List.mem_map, List.mem_range'_1] at hlast
          obtain ⟨k, ⟨hlow, hhigh⟩, rfl⟩ := hlast
          obtain ⟨i, rfl⟩ := Nat.exists_eq_add_of_le hlow
          exact ⟨n, Nat.lt_succ_self n, by rw [hr]; rfl, i, by omega, rfl⟩
    · rintro ⟨b, hb, hrow, i, hi, rfl⟩
      rcases Nat.lt_succ_iff_lt_or_eq.mp hb with hlt | rfl
      · exact Or.inl ⟨b, hlt, hrow, i, hi, rfl⟩
      · obtain ⟨cell, hcell⟩ := Option.isSome_iff_exists.mp hrow
        simp only [hcell, fillRow_log, List.mem_map, List.mem_range'_1]
        exact Or.inr ⟨_, ⟨by omega, by omega⟩, rfl⟩

lemma count_fillRow_log [DecidableEq ε] (hwritten : Function.Injective written) {cell : ℕ → Slot → Slot}
    {s : ℕ → Slot} (k : ℕ) : (fillRow written base width cell s).log.count (written k) =
      if base ≤ k ∧ k < base + width then 1 else 0 := by
  rw [fillRow_log, List.count_map_of_injective _ _ hwritten, List.count_range_1']

/-- Each slot of a row is written once, unless the row is left out. -/
lemma count_fillGrid_log [DecidableEq ε] (hwritten : Function.Injective written)
    {row : ℕ → Option (ℕ → Slot → Slot)} {blocks : ℕ} {s : ℕ → Slot} (k : ℕ) :
    (fillGrid written base width row blocks s).log.count (written k) =
      if (base ≤ k ∧ k < base + blocks * width) ∧ (row ((k - base) / width)).isSome = true then 1 else 0 := by
  rw [fillGrid]
  induction blocks with
  | zero =>
    rw [loop_zero, if_neg fun h => by omega]
    rfl
  | succ n ih =>
    have hw : (n + 1) * width = n * width + width := by ring
    rw [log_loop_succ, List.count_append, ih]
    generalize (loop _ n s).val = t
    by_cases hk : base + n * width ≤ k ∧ k < base + n * width + width
    · obtain ⟨i, rfl⟩ := Nat.exists_eq_add_of_le hk.1
      obtain ⟨hd, -⟩ := div_mod_unit base n (show i < width by omega)
      rw [Nat.mul_comm width n] at hd
      rw [if_neg fun h => by omega, Nat.zero_add, hd]
      cases hr : row n with
      | none => rw [if_neg fun h => Bool.noConfusion h.2, List.count_nil]
      | some cell =>
        dsimp only
        rw [count_fillRow_log _ _ _ hwritten, if_pos hk, if_pos ⟨by omega, rfl⟩]
    · have hout : base ≤ k ∧ k < base + (n + 1) * width ↔ base ≤ k ∧ k < base + n * width := by omega
      simp only [hout]
      cases hr : row n with
      | none => rw [List.count_nil, Nat.add_zero]
      | some cell =>
        dsimp only
        rw [count_fillRow_log _ _ _ hwritten, if_neg hk, Nat.add_zero]

lemma allLog_fillRow {P : ε → Prop} {cell : ℕ → Slot → Slot} {s : ℕ → Slot} (h : ∀ i, P (written i)) :
    AllLog P (fillRow written base width cell s) := by
  rw [fillRow, allLog_loop]
  exact fun i _ => allLog_bind.mpr ⟨allLog_note.mpr (h _), allLog_pure _⟩

lemma allLog_fillGrid {P : ε → Prop} {row : ℕ → Option (ℕ → Slot → Slot)} {blocks : ℕ} {s : ℕ → Slot}
    (h : ∀ i, P (written i)) : AllLog P (fillGrid written base width row blocks s) := by
  rw [fillGrid, allLog_loop]
  intro b _
  cases row b with
  | none => exact allLog_of_log_eq_nil rfl
  | some cell => exact allLog_fillRow _ _ _ h

end Grid

end Library.BlockWalk
