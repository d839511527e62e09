import Mathlib.Data.List.Basic
import Mathlib.Data.Nat.ModEq
import Mathlib.Logic.Function.Basic
import Mathlib.Tactic.Lemma

namespace HesaiSdk.Container

/-- `Ring<T, N>`; sums of indices stay below `2 * N`, far from the end of `size_t`. -/
structure Ring (T : Type) (N : ℕ) where
  ring : Fin N → T
  begin : ℕ
  size : ℕ
  begin_lt : begin < N
  size_le : size ≤ N

namespace Ring

variable {T : Type} {N : ℕ}

lemma pos (r : Ring T N) : 0 < N := Nat.zero_lt_of_lt r.begin_lt

def index (r : Ring T N) (i : ℕ) : Fin N := ⟨(r.begin + i) % N, Nat.mod_lt _ r.pos⟩

def new (hN : 0 < N) (memory : Fin N → T) : Ring T N := ⟨memory, 0, 0, hN, Nat.zero_le N⟩

def empty (r : Ring T N) : Bool := r.size == 0

def notEmpty (r : Ring T N) : Bool := !r.empty

def full (r : Ring T N) : Bool := N ≤ r.size

def notFull (r : Ring T N) : Bool := !r.full

lemma notEmpty_iff {r : Ring T N} : r.notEmpty = true ↔ 0 < r.size := by
  simp [notEmpty, empty, Nat.pos_iff_ne_zero]

lemma notFull_iff {r : Ring T N} : r.notFull = true ↔ r.size < N := by
  simp [notFull, full]

def pushBack (r : Ring T N) (h : r.notFull = true) (item : T) : Ring T N where
  ring := Function.update r.ring (r.index r.size) item
  begin := r.begin
  size := r.size + 1
  begin_lt := r.begin_lt
  size_le := notFull_iff.mp h

def emplaceBack {Args : Type} (construct : Args → T) (r : Ring T N) (h : r.notFull = true) (args : Args) : Ring T N :=
  r.pushBack h (construct args)

def peekFront (r : Ring T N) : T := r.ring ⟨r.begin, r.begin_lt⟩

def effPopFront (r : Ring T N) : Ring T N where
  ring := r.ring
  begin := (r.begin + 1) % N
  size := r.size - 1
  begin_lt := Nat.mod_lt _ r.pos
  size_le := (Nat.sub_le _ _).trans r.size_le

def popFront [Inhabited T] (r : Ring T N) : T × Ring T N :=
  (r.ring ⟨r.begin, r.begin_lt⟩,
    { r.effPopFront with ring := Function.update r.ring ⟨r.begin, r.begin_lt⟩ default })

def contents (r : Ring T N) : List T := (List.range r.size).map fun i => r.ring (r.index i)

section Contents

variable {r : Ring T N} {item : T} {i j : ℕ}

@[simp] lemma length_contents : r.contents.length = r.size := by
  rw [contents, List.length_map, List.length_range]

lemma index_zero : r.index 0 = ⟨r.begin, r.begin_lt⟩ := Fin.ext (Nat.mod_eq_of_lt r.begin_lt)

lemma index_injective (hi : i < N) (hj : j < N) (h : r.index i = r.index j) : i = j := by
  have hmod : r.begin + i ≡ r.begin + j [MOD N] := Fin.ext_iff.mp h
  exact Nat.ModEq.eq_of_lt_of_lt (Nat.ModEq.add_left_cancel' _ hmod) hi hj

lemma index_effPopFront : r.effPopFront.index i = r.index (i + 1) := by
  apply Fin.ext
  show ((r.begin + 1) % N + i) % N = (r.begin + (i + 1)) % N
  rw [Nat.mod_add_mod, Nat.add_assoc, Nat.add_comm 1]

lemma contents_pushBack (h : r.notFull = true) : (r.pushBack h item).contents = r.contents ++ [item] := by
  have hlt := notFull_iff.mp h
  have hkeep : ∀ i ∈ List.range r.size, (r.pushBack h item).ring (r.index i) = r.ring (r.index i) := by
    intro i hi
    have hi := List.mem_range.mp hi
    apply Function.update_of_ne
    intro heq
    exact absurd (index_injective (hi.trans hlt) hlt heq) hi.ne
  have hlast : (r.pushBack h item).ring (r.index r.size) = item := Function.update_self _ _ _
  rw [contents, contents]
  show (List.range (r.size + 1)).map (fun i => (r.pushBack h item).ring (r.index i)) = _
  rw [List.range_succ, List.map_append, List.map_congr_left hkeep, List.map_singleton, hlast]

lemma contents_eq_cons (h : r.notEmpty = true) : r.contents = r.peekFront :: r.effPopFront.contents := by
  obtain ⟨n, hn⟩ := Nat.exists_eq_add_of_lt (notEmpty_iff.mp h)
  have hpop : r.effPopFront.size = n := by
    show r.size - 1 = n
    omega
  rw [contents, contents, hpop, show r.size = n + 1 by omega, List.range_succ_eq_map, List.map_cons, index_zero,
    List.map_map]
  refine congrArg (_ :: ·) (List.map_congr_left fun i _ => ?_)
  rw [index_effPopFront]
  rfl

variable [Inhabited T]

lemma contents_popFront (h : r.notEmpty = true) : r.contents = r.popFront.1 :: r.popFront.2.contents := by
  have hrest : r.popFront.2.contents = r.effPopFront.contents := by
    refine List.map_congr_left fun i hi => ?_
    have hi : i < r.size - 1 := List.mem_range.mp hi
    apply Function.update_of_ne
    intro heq
    have heq : r.index (i + 1) = r.index 0 := (index_effPopFront.symm.trans heq).trans index_zero.symm
    have := index_injective (by have := r.size_le; omega) r.pos heq
    omega
  rw [contents_eq_cons h, hrest]
  rfl

end Contents

end Ring

end HesaiSdk.Container
