import HesaiSdk.Container.Ring
import HesaiSdk.Library.Simulation

/-! `Ring` in all its operations, as a list of at most `N` items. -/

namespace HesaiSdk.Container

open Library.Simulation

namespace Ring

/-- `ItemIterator`; `_p0` is the array of the one ring it is taken from. -/
structure ItemIterator where
  steps : ℕ
deriving DecidableEq

namespace ItemIterator

variable {N : ℕ}

def cell (hN : 0 < N) (it : ItemIterator) : Fin N := ⟨it.steps % N, Nat.mod_lt _ hN⟩

def next (it : ItemIterator) : ItemIterator := ⟨it.steps + 1⟩

/-- `operator+`. -/
def add (it : ItemIterator) (n : ℕ) : ItemIterator := ⟨it.steps + n⟩

end ItemIterator

section Operations

variable {T Args : Type} {N : ℕ}

def peekBack (r : Ring T N) : T := r.ring ⟨(r.begin + r.size - 1) % N, Nat.mod_lt _ r.pos⟩

lemma pred_size_le (r : Ring T N) : r.size - 1 ≤ N := (Nat.sub_le _ _).trans r.size_le

lemma succ_size_le (r : Ring T N) (h : r.notFull = true) : r.size + 1 ≤ N := notFull_iff.mp h

def effPopBack (r : Ring T N) : Ring T N where
  ring := r.ring
  begin := r.begin
  size := r.size - 1
  begin_lt := r.begin_lt
  size_le := r.pred_size_le

def popBack [Inhabited T] (r : Ring T N) : T × Ring T N :=
  (r.ring (r.index (r.size - 1)),
    { r.effPopBack with ring := Function.update r.ring (r.index (r.size - 1)) default })

def pushFront (r : Ring T N) (h : r.notFull = true) (item : T) : Ring T N where
  ring := Function.update r.ring ⟨(r.begin + N - 1) % N, Nat.mod_lt _ r.pos⟩ item
  begin := (r.begin + N - 1) % N
  size := r.size + 1
  begin_lt := Nat.mod_lt _ r.pos
  size_le := r.succ_size_le h

def emplaceFront (construct : Args → T) (r : Ring T N) (h : r.notFull = true) (args : Args) : Ring T N :=
  r.pushFront h (construct args)

def effClear (r : Ring T N) : Ring T N where
  ring := r.ring
  begin := 0
  size := 0
  begin_lt := r.pos
  size_le := Nat.zero_le N

/-- `operator[]`, read. -/
def item (r : Ring T N) (i : ℕ) : T := r.ring (r.index i)

/-- `operator[]`, assigned through the reference it gives. -/
def assign (r : Ring T N) (i : ℕ) (item : T) : Ring T N :=
  { r with ring := Function.update r.ring (r.index i) item }

def beginIterator (r : Ring T N) : ItemIterator := ⟨r.begin⟩

def endIterator (r : Ring T N) : ItemIterator := ⟨r.begin + r.size⟩

def assignCell (hN : 0 < N) (body : T → T) (ring : Fin N → T) (it : ItemIterator) : Fin N → T :=
  Function.update ring (it.cell hN) (body (ring (it.cell hN)))

/-- `for (auto& item : *this) item = body(item)`, with the items it comes to. -/
def forEach (hN : 0 < N) (body : T → T) (ring : Fin N → T) (it last : ItemIterator) (h : it.steps ≤ last.steps) :
    List T × (Fin N → T) :=
  if hlast : it = last then ([], ring)
  else
    have hne : it.steps ≠ last.steps := fun heq => hlast (congrArg ItemIterator.mk heq)
    let rest := forEach hN body (assignCell hN body ring it) it.next last (lt_of_le_of_ne h hne)
    (ring (it.cell hN) :: rest.1, rest.2)
termination_by last.steps - it.steps
decreasing_by
  simp only [ItemIterator.next]
  omega

def iterate (r : Ring T N) (body : T → T) : List T × Ring T N :=
  let visit := forEach r.pos body r.ring r.beginIterator r.endIterator (Nat.le_add_right r.begin r.size)
  (visit.1, { r with ring := visit.2 })

def clear [Inhabited T] (r : Ring T N) : Ring T N := (r.iterate fun _ => default).2.effClear

end Operations

/-- A call of one of the operations; `assign` goes through the reference of `operator[]`, and `iterate`
through those of the iterator. -/
inductive Operation (T Args : Type) where
  | pushBack (item : T)
  | emplaceBack (args : Args)
  | pushFront (item : T)
  | emplaceFront (args : Args)
  | popBack
  | popFront
  | effPopBack
  | effPopFront
  | peekFront
  | peekBack
  | item (index : ℕ)
  | assign (index : ℕ) (item : T)
  | iterate (body : T → T)
  | clear
  | effClear

inductive Answer (T : Type) where
  | done
  | item (item : T)
  | items (items : List T)

variable {T Args : Type} {N : ℕ}

/-- An operation whose assertion holds, or for the unchecked ones the assertion of their checked form. -/
def call [Inhabited T] (construct : Args → T) (r : Ring T N) : Operation T Args → Option (Answer T × Ring T N)
  | .pushBack item => if h : r.notFull = true then some (.done, r.pushBack h item) else none
  | .emplaceBack args => if h : r.notFull = true then some (.done, r.emplaceBack construct h args) else none
  | .pushFront item => if h : r.notFull = true then some (.done, r.pushFront h item) else none
  | .emplaceFront args => if h : r.notFull = true then some (.done, r.emplaceFront construct h args) else none
  | .popBack => if r.notEmpty then some (.item r.popBack.1, r.popBack.2) else none
  | .popFront => if r.notEmpty then some (.item r.popFront.1, r.popFront.2) else none
  | .effPopBack => if r.notEmpty then some (.done, r.effPopBack) else none
  | .effPopFront => if r.notEmpty then some (.done, r.effPopFront) else none
  | .peekFront => if r.notEmpty then some (.item r.peekFront, r) else none
  | .peekBack => if r.notEmpty then some (.item r.peekBack, r) else none
  | .item index => if index < r.size then some (.item (r.item index), r) else none
  | .assign index item => if index < r.size then some (.done, r.assign index item) else none
  | .iterate body => some (.items (r.iterate body).1, (r.iterate body).2)
  | .clear => some (.done, r.clear)
  | .effClear => some (.done, r.effClear)

end Ring

namespace Deque

open Container.Ring (Operation Answer)

variable {T Args : Type}

/-- The same operations on a list of at most `N` items. -/
def call (construct : Args → T) (N : ℕ) (l : List T) : Operation T Args → Option (Answer T × List T)
  | .pushBack item => if l.length < N then some (.done, l ++ [item]) else none
  | .emplaceBack args => if l.length < N then some (.done, l ++ [construct args]) else none
  | .pushFront item => if l.length < N then some (.done, item :: l) else none
  | .emplaceFront args => if l.length < N then some (.done, construct args :: l) else none
  | .popBack => l.getLast?.map fun item => (.item item, l.dropLast)
  | .popFront => l.head?.map fun item => (.item item, l.tail)
  | .effPopBack => l.getLast?.map fun _ => (.done, l.dropLast)
  | .effPopFront => l.head?.map fun _ => (.done, l.tail)
  | .peekFront => l.head?.map fun item => (.item item, l)
  | .peekBack => l.getLast?.map fun item => (.item item, l)
  | .item index => l[index]?.map fun item => (.item item, l)
  | .assign index item => l[index]?.map fun _ => (.done, l.set index item)
  | .iterate body => some (.items l, l.map body)
  | .clear => some (.done, [])
  | .effClear => some (.done, [])

end Deque

namespace Ring

section Contents

variable {T : Type} {N : ℕ} {r : Ring T N} {item : T} {i : ℕ}

lemma getElem?_contents (hi : i < r.size) : r.contents[i]? = some (r.item i) := by
  rw [contents, List.getElem?_map, List.getElem?_range hi]
  rfl

lemma contents_eq_concat (h : r.notEmpty = true) : r.contents = r.effPopBack.contents ++ [r.peekBack] := by
  obtain ⟨n, hn⟩ := Nat.exists_eq_add_of_lt (notEmpty_iff.mp h)
  have hpop : r.effPopBack.size = n := by
    show r.size - 1 = n
    omega
  have hback : r.peekBack = r.ring (r.index n) := by
    refine congrArg r.ring (Fin.ext ?_)
    show (r.begin + r.size - 1) % N = (r.begin + n) % N
    rw [show r.begin + r.size - 1 = r.begin + n by omega]
  rw [contents, contents, hpop, show r.size = n + 1 by omega, List.range_succ, List.map_append, List.map_singleton,
    hback]
  rfl

lemma effPopFront_begin_pushFront (h : r.notFull = true) : (r.pushFront h item).effPopFront.begin = r.begin := by
  show ((r.begin + N - 1) % N + 1) % N = r.begin
  have hpos := r.pos
  rw [Nat.mod_add_mod, show r.begin + N - 1 + 1 = r.begin + N by omega, Nat.add_mod_right,
    Nat.mod_eq_of_lt r.begin_lt]

lemma contents_pushFront (h : r.notFull = true) : (r.pushFront h item).contents = item :: r.contents := by
  have hlt := notFull_iff.mp h
  have hsome : (r.pushFront h item).notEmpty = true := notEmpty_iff.mpr (Nat.succ_pos _)
  have hfront : (r.pushFront h item).peekFront = item := Function.update_self _ _ _
  have hindex : ∀ i, (r.pushFront h item).effPopFront.index i = r.index i := by
    intro i
    apply Fin.ext
    show ((r.pushFront h item).effPopFront.begin + i) % N = (r.begin + i) % N
    rw [effPopFront_begin_pushFront]
  have hrest : (r.pushFront h item).effPopFront.contents = r.contents := by
    refine List.map_congr_left fun i hi => ?_
    have hi : i < r.size := List.mem_range.mp hi
    rw [← hindex]
    apply Function.update_of_ne
    intro heq
    have heq : (r.pushFront h item).index (i + 1) = (r.pushFront h item).index 0 :=
      (index_effPopFront.symm.trans heq).trans (index_zero (r := r.pushFront h item)).symm
    have := index_injective (by omega) r.pos heq
    omega
  rw [contents_eq_cons hsome, hfront, hrest]

lemma contents_assign (hi : i < r.size) : (r.assign i item).contents = r.contents.set i item := by
  apply List.ext_getElem?
  intro j
  by_cases hj : j < r.size
  · rw [getElem?_contents (r := r.assign i item) hj, List.getElem?_set, getElem?_contents hj, length_contents,
      if_pos hi]
    split_ifs with hij
    · obtain rfl := hij
      exact congrArg some (Function.update_self _ _ _)
    · refine congrArg some (Function.update_of_ne (fun heq => hij ?_) _ _)
      exact (index_injective (hj.trans_le r.size_le) (hi.trans_le r.size_le) heq).symm
  · have hlen : r.contents.length ≤ j := by
      rw [length_contents]
      omega
    rw [List.getElem?_eq_none ((length_contents (r := r.assign i item)).trans_le (Nat.le_of_not_lt hj)),
      List.getElem?_eq_none ((List.length_set ..).trans_le hlen)]

variable [Inhabited T]

lemma contents_popBack (h : r.notEmpty = true) : r.contents = r.popBack.2.contents ++ [r.popBack.1] := by
  have hsize := notEmpty_iff.mp h
  have hrest : r.popBack.2.contents = r.effPopBack.contents := by
    refine List.map_congr_left fun i hi => ?_
    have hi : i < r.size - 1 := List.mem_range.mp hi
    apply Function.update_of_ne
    intro heq
    have := index_injective (r := r) (by have := r.size_le; omega) (by have := r.size_le; omega) heq
    omega
  have hback : r.popBack.1 = r.peekBack := by
    refine congrArg r.ring (Fin.ext ?_)
    show (r.begin + (r.size - 1)) % N = (r.begin + r.size - 1) % N
    rw [Nat.add_sub_assoc hsize]
  rw [contents_eq_concat h, hrest, hback]

end Contents

section Iteration

variable {T : Type} {N n i : ℕ} {hN : 0 < N} {body : T → T} {ring : Fin N → T} {it last : ItemIterator} {c : Fin N}

lemma cell_next : (it.next.add i).cell hN = (it.add (i + 1)).cell hN := by
  rw [ItemIterator.add, ItemIterator.next, Nat.add_assoc, Nat.add_comm 1]
  rfl

lemma cell_ne (hi : i + 1 < N) : (it.add (i + 1)).cell hN ≠ it.cell hN := by
  intro heq
  have hmod : it.steps + (i + 1) ≡ it.steps + 0 [MOD N] := Fin.ext_iff.mp heq
  have := Nat.ModEq.eq_of_lt_of_lt (Nat.ModEq.add_left_cancel' _ hmod) hi hN
  omega

lemma next_le (hnext : last.steps = it.next.steps + n) : it.next.steps ≤ last.steps :=
  hnext.ge.trans' (Nat.le_add_right _ _)

lemma steps_next (hlast : last.steps = it.steps + (n + 1)) : last.steps = it.next.steps + n := by
  rw [hlast, ItemIterator.next, Nat.add_assoc, Nat.add_comm 1]

lemma forEach_last (h : it.steps ≤ it.steps) : forEach hN body ring it it h = ([], ring) := by
  rw [forEach, dif_pos rfl]

lemma forEach_succ (hlast : last.steps = it.steps + (n + 1)) (h : it.steps ≤ last.steps)
    (hnext : it.next.steps ≤ last.steps) : forEach hN body ring it last h =
      (ring (it.cell hN) :: (forEach hN body (assignCell hN body ring it) it.next last hnext).1,
        (forEach hN body (assignCell hN body ring it) it.next last hnext).2) := by
  have hne : it ≠ last := by
    rintro rfl
    omega
  rw [forEach, dif_neg hne]

lemma forEach_outside (hlast : last.steps = it.steps + n) (h : it.steps ≤ last.steps)
    (hc : ∀ i < n, (it.add i).cell hN ≠ c) : (forEach hN body ring it last h).2 c = ring c := by
  induction n generalizing it ring with
  | zero =>
    obtain rfl : last = it := congrArg ItemIterator.mk hlast
    rw [forEach_last]
  | succ n ih =>
    have hnext := steps_next hlast
    rw [forEach_succ hlast h (next_le hnext), ih hnext]
    · exact Function.update_of_ne (hc 0 (Nat.succ_pos n)).symm _ _
    · intro i hi
      rw [cell_next]
      exact hc (i + 1) (by omega)

lemma forEach_items (hn : n ≤ N) (hlast : last.steps = it.steps + n) (h : it.steps ≤ last.steps) :
    (forEach hN body ring it last h).1 =
      (List.range n).map fun i => ring ((it.add i).cell hN) := by
  induction n generalizing it ring with
  | zero =>
    obtain rfl : last = it := congrArg ItemIterator.mk hlast
    rw [forEach_last]
    rfl
  | succ n ih =>
    have hnext := steps_next hlast
    rw [forEach_succ hlast h (next_le hnext), ih (by omega) hnext _, List.range_succ_eq_map, List.map_cons,
      List.map_map]
    refine congrArg (_ :: ·) (List.map_congr_left fun i hi => ?_)
    have hi := List.mem_range.mp hi
    rw [cell_next]
    exact Function.update_of_ne (cell_ne (by omega)) _ _

lemma forEach_inside (hn : n ≤ N) (hlast : last.steps = it.steps + n) (h : it.steps ≤ last.steps) (hi : i < n) :
    (forEach hN body ring it last h).2 ((it.add i).cell hN) =
      body (ring ((it.add i).cell hN)) := by
  induction n generalizing it ring i with
  | zero => exact absurd hi (Nat.not_lt_zero i)
  | succ n ih =>
    have hnext := steps_next hlast
    rw [forEach_succ hlast h (next_le hnext)]
    cases i with
    | zero =>
      have hlater : ∀ i < n, (it.next.add i).cell hN ≠ it.cell hN := by
        intro i hi
        rw [cell_next]
        exact cell_ne (by omega)
      exact (forEach_outside hnext _ hlater).trans (Function.update_self _ _ _)
    | succ i =>
      rw [← cell_next, ih (by omega) hnext _ (by omega), cell_next]
      exact congrArg body (Function.update_of_ne (cell_ne (by omega)) _ _)

variable {r : Ring T N}

lemma items_iterate : (r.iterate body).1 = r.contents := forEach_items r.size_le rfl _

lemma contents_iterate : (r.iterate body).2.contents = r.contents.map body := by
  rw [contents, contents, List.map_map]
  exact List.map_congr_left fun i hi => forEach_inside r.size_le rfl _ (List.mem_range.mp hi)

end Iteration

section Refinement

variable {T Args : Type} {N : ℕ} {r : Ring T N}

lemma length_contents_lt_iff : r.contents.length < N ↔ r.notFull = true := by
  rw [length_contents, notFull_iff]

lemma contents_eq_nil (h : ¬r.notEmpty = true) : r.contents = [] := by
  rw [← List.length_eq_zero_iff, length_contents]
  rw [notEmpty_iff] at h
  omega

lemma map_room {f : r.notFull = true → Ring T N} {l : List T} (hf : ∀ h, (f h).contents = l) :
    (if h : r.notFull = true then some (Answer.done (T := T), f h) else none).map (Prod.map id contents) =
      if r.contents.length < N then some (.done, l) else none := by
  by_cases h : r.notFull = true
  · rw [dif_pos h, if_pos (length_contents_lt_iff.mpr h), ← hf h]
    rfl
  · rw [dif_neg h, if_neg (mt length_contents_lt_iff.mp h)]
    rfl

/-- What is taken from the front, given the item there and the items behind it. -/
lemma map_front {p : Answer T × Ring T N} {f : T → List T → Answer T × List T}
    (hf : ∀ item l, r.notEmpty = true → r.contents = item :: l → Prod.map id contents p = f item l) :
    (if r.notEmpty then some p else none).map (Prod.map id contents) =
      r.contents.head?.map fun item => f item r.contents.tail := by
  by_cases h : r.notEmpty = true
  · rw [if_pos h, contents_eq_cons h]
    exact congrArg some (hf _ _ h (contents_eq_cons h))
  · rw [if_neg h, contents_eq_nil h]
    rfl

lemma map_back {p : Answer T × Ring T N} {f : T → List T → Answer T × List T}
    (hf : ∀ item l, r.notEmpty = true → r.contents = l ++ [item] → Prod.map id contents p = f item l) :
    (if r.notEmpty then some p else none).map (Prod.map id contents) =
      r.contents.getLast?.map fun item => f item r.contents.dropLast := by
  by_cases h : r.notEmpty = true
  · rw [if_pos h, contents_eq_concat h, List.getLast?_concat, List.dropLast_concat]
    exact congrArg some (hf _ _ h (contents_eq_concat h))
  · rw [if_neg h, contents_eq_nil h]
    rfl

lemma map_index {p : Answer T × Ring T N} {i : ℕ} {f : T → Answer T × List T}
    (hf : i < r.size → Prod.map id contents p = f (r.item i)) :
    (if i < r.size then some p else none).map (Prod.map id contents) = r.contents[i]?.map f := by
  by_cases h : i < r.size
  · rw [if_pos h, getElem?_contents h]
    exact congrArg some (hf h)
  · rw [if_neg h, List.getElem?_eq_none (length_contents.trans_le (Nat.le_of_not_lt h))]
    rfl

variable [Inhabited T]

lemma refines_deque (construct : Args → T) :
    Refines contents (call construct (N := N)) (Deque.call construct N) := by
  intro r op
  cases op with
  | pushBack item => exact map_room fun h => contents_pushBack h
  | emplaceBack args => exact map_room fun h => contents_pushBack h
  | pushFront item => exact map_room fun h => contents_pushFront h
  | emplaceFront args => exact map_room fun h => contents_pushFront h
  | popBack =>
    refine map_back (f := fun item l => (.item item, l)) fun item l h heq => ?_
    obtain ⟨hl, hitem⟩ := List.append_inj' ((contents_popBack h).symm.trans heq) rfl
    exact Prod.ext (congrArg Answer.item (List.singleton_injective hitem)) hl
  | popFront =>
    refine map_front (f := fun item l => (.item item, l)) fun item l h heq => ?_
    obtain ⟨hitem, hl⟩ := List.cons_eq_cons.mp ((contents_popFront h).symm.trans heq)
    exact Prod.ext (congrArg Answer.item hitem) hl
  | effPopBack =>
    refine map_back (f := fun _ l => (.done, l)) fun item l h heq => ?_
    obtain ⟨hl, -⟩ := List.append_inj' ((contents_eq_concat h).symm.trans heq) rfl
    exact Prod.ext rfl hl
  | effPopFront =>
    refine map_front (f := fun _ l => (.done, l)) fun item l h heq => ?_
    obtain ⟨-, hl⟩ := List.cons_eq_cons.mp ((contents_eq_cons h).symm.trans heq)
    exact Prod.ext rfl hl
  | peekFront =>
    refine map_front (f := fun item _ => (.item item, r.contents)) fun item l h heq => ?_
    obtain ⟨hitem, -⟩ := List.cons_eq_cons.mp ((contents_eq_cons h).symm.trans heq)
    exact Prod.ext (congrArg Answer.item hitem) rfl
  | peekBack =>
    refine map_back (f := fun item _ => (.item item, r.contents)) fun item l h heq => ?_
    obtain ⟨-, hitem⟩ := List.append_inj' ((contents_eq_concat h).symm.trans heq) rfl
    exact Prod.ext (congrArg Answer.item (List.singleton_injective hitem)) rfl
  | item index => exact map_index (f := fun item => (.item item, r.contents)) fun _ => rfl
  | assign index item =>
    exact map_index (f := fun _ => (.done, r.contents.set index item)) fun h => Prod.ext rfl (contents_assign h)
  | iterate body => exact congrArg some (Prod.ext (congrArg Answer.items items_iterate) contents_iterate)
  | clear => rfl
  | effClear => rfl

/-- From any ring every sequence of calls answers as on the list of its items, or breaks an assertion
where the list has none to give or no room, and leaves a ring of the list's items. -/
theorem runs_deque (construct : Args → T) (r : Ring T N) (ops : List (Operation T Args)) :
    (runs (call construct) ops r).map (Prod.map id contents) = runs (Deque.call construct N) ops r.contents ∧
      ∀ answers r', runs (call construct) ops r = some (answers, r') →
        r'.begin < N ∧ r'.size ≤ N ∧ r'.contents.length = r'.size :=
  ⟨map_runs (refines_deque construct) ops r, fun _ r' _ => ⟨r'.begin_lt, r'.size_le, length_contents⟩⟩

end Refinement

end Ring

end HesaiSdk.Container
