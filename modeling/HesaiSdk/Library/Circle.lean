import Mathlib.Algebra.BigOperators.Group.List.Basic
import Mathlib.Tactic.Lemma
import Mathlib.Tactic.Ring

/-! A point that moves around a circle of `m` positions, and how often it passes a mark. -/

namespace Library.Circle

variable {m mark u x y : ℤ} {xs : List ℤ}

def advance (m x y : ℤ) : ℤ := (y - x) % m

/-- The mark lies on the way forward from `x` to `y`, which excludes `x` and includes `y`. -/
def Passes (m mark x y : ℤ) : Prop := 0 < advance m x mark ∧ advance m x mark ≤ advance m x y

instance : Decidable (Passes m mark x y) := inferInstanceAs (Decidable (_ ∧ _))

def OnArc (start stop x : ℤ) : Prop := if start ≤ stop then start ≤ x ∧ x ≤ stop else start ≤ x ∨ x ≤ stop

instance {start stop x : ℤ} : Decidable (OnArc start stop x) :=
  inferInstanceAs (Decidable (if start ≤ stop then start ≤ x ∧ x ≤ stop else start ≤ x ∨ x ≤ stop))

def travelled (m : ℤ) : ℤ → List ℤ → ℤ
  | _, [] => 0
  | x, y :: ys => advance m x y + travelled m y ys

def passages (m mark : ℤ) : ℤ → List ℤ → List Bool
  | _, [] => []
  | x, y :: ys => decide (Passes m mark x y) :: passages m mark y ys

/-- The turns completed at the unwrapped position `u`, counted at the mark. -/
def turns (m mark u : ℤ) : ℤ := (u - mark) / m

lemma advance_nonneg (hm : 0 < m) : 0 ≤ advance m x y := Int.emod_nonneg _ hm.ne'

lemma advance_lt (hm : 0 < m) : advance m x y < m := Int.emod_lt_of_pos _ hm

@[simp] lemma advance_self : advance m x x = 0 := by
  rw [advance, sub_self, Int.zero_emod]

lemma advance_neg : advance m (-x) (-y) = advance m y x := by
  rw [advance, advance, neg_sub_neg]

lemma advance_of_le (hx : 0 ≤ x) (hxy : x ≤ y) (hy : y < m) : advance m x y = y - x :=
  Int.emod_eq_of_lt (by omega) (by omega)

lemma advance_of_lt (hy : 0 ≤ y) (hxy : y < x) (hx : x < m) : advance m x y = y - x + m := by
  rw [advance, ← Int.add_emod_right]
  exact Int.emod_eq_of_lt (by omega) (by omega)

lemma advance_eq_ite (hx : 0 ≤ x ∧ x < m) (hy : 0 ≤ y ∧ y < m) :
    advance m x y = if x ≤ y then y - x else y - x + m := by
  split_ifs with hxy
  · exact advance_of_le hx.1 hxy hy.2
  · exact advance_of_lt hy.1 (not_le.mp hxy) hx.2

lemma passes_iff (hx : 0 ≤ x ∧ x < m) (hmark : 0 ≤ mark ∧ mark < m) (hy : 0 ≤ y ∧ y < m) :
    Passes m mark x y ↔ if y < x then x < mark ∨ mark ≤ y else x < mark ∧ mark ≤ y := by
  rw [Passes, advance_eq_ite hx hmark, advance_eq_ite hx hy]
  split_ifs <;> omega

lemma passes_neg_iff (hx : 0 ≤ x ∧ x < m) (hmark : 0 ≤ mark ∧ mark < m) (hy : 0 ≤ y ∧ y < m) :
    Passes m (-mark) (-x) (-y) ↔ if x < y then mark < x ∨ y ≤ mark else mark < x ∧ y ≤ mark := by
  rw [Passes, advance_neg, advance_neg, advance_eq_ite hmark hx, advance_eq_ite hy hx]
  split_ifs <;> omega

lemma onArc_iff_advance {start stop : ℤ} (hstart : 0 ≤ start ∧ start < m) (hstop : 0 ≤ stop ∧ stop < m)
    (hx : 0 ≤ x ∧ x < m) :
    OnArc start stop x ↔ advance m start x + advance m x stop = advance m start stop := by
  rw [advance_eq_ite hstart hx, advance_eq_ite hx hstop, advance_eq_ite hstart hstop, OnArc]
  by_cases hwrap : start ≤ stop
  · rw [if_pos hwrap, if_pos hwrap]
    split_ifs <;> omega
  · rw [if_neg hwrap, if_neg hwrap]
    split_ifs <;> omega

lemma ne_of_advance (h : 0 < advance m x y) : y ≠ x := by
  rintro rfl
  rw [advance_self] at h
  exact h.false

lemma turns_add (hm : 0 < m) {d : ℤ} (h0 : 0 ≤ d) (hd : d < m) :
    turns m mark (u + d) = turns m mark u + if 0 < advance m u mark ∧ advance m u mark ≤ d then 1 else 0 := by
  have hdiv := Int.mul_ediv_add_emod (u - mark) m
  have hr0 := Int.emod_nonneg (u - mark) hm.ne'
  have hr := Int.emod_lt_of_pos (u - mark) hm
  have hneg : advance m u mark = if (u - mark) % m = 0 then 0 else m - (u - mark) % m := by
    rw [advance, ← neg_sub, Int.neg_emod]
    simp only [Int.dvd_iff_emod_eq_zero]
    rw [Int.natAbs_of_nonneg hm.le]
  rw [turns, turns, show u + d - mark = m * ((u - mark) / m) + ((u - mark) % m + d) by omega,
    Int.mul_add_ediv_left _ _ hm.ne']
  congr 1
  rw [hneg]
  by_cases hz : (u - mark) % m = 0
  · rw [if_pos hz, if_neg (by omega), hz, zero_add]
    exact Int.ediv_eq_zero_of_lt h0 hd
  · rw [if_neg hz]
    by_cases hle : m - (u - mark) % m ≤ d
    · rw [if_pos ⟨by omega, hle⟩]
      have hone : (u - mark) % m + d = ((u - mark) % m + d - m) + m * 1 := by ring
      rw [hone, Int.add_mul_ediv_left _ _ hm.ne', Int.ediv_eq_zero_of_lt (by omega) (by omega), zero_add]
    · rw [if_neg fun h => hle h.2]
      exact Int.ediv_eq_zero_of_lt (by omega) (by omega)

lemma turns_advance (hm : 0 < m) (hu : u % m = x % m) :
    turns m mark (u + advance m x y) = turns m mark u + if Passes m mark x y then 1 else 0 := by
  have hsame (z : ℤ) : advance m u z = advance m x z := by
    rw [advance, advance, Int.sub_emod, hu, ← Int.sub_emod]
  rw [turns_add hm (advance_nonneg hm) (advance_lt hm), hsame]
  rfl

lemma count_passages (hm : 0 < m) (hu : u % m = x % m) :
    ((passages m mark x xs).count true : ℤ) = turns m mark (u + travelled m x xs) - turns m mark u := by
  induction xs generalizing x u with
  | nil => simp [passages, travelled]
  | cons y ys ih =>
    have hy : (u + advance m x y) % m = y % m := by
      rw [advance, Int.add_emod, hu, Int.emod_emod, ← Int.add_emod]
      congr 1
      ring
    have hstep : turns m mark (u + advance m x y) = turns m mark u + if Passes m mark x y then 1 else 0 :=
      turns_advance hm hu
    have hrest := ih hy
    rw [passages, travelled, ← add_assoc]
    by_cases hp : Passes m mark x y
    · rw [if_pos hp] at hstep
      rw [decide_eq_true hp, List.count_cons_self]
      push_cast
      omega
    · rw [if_neg hp] at hstep
      rw [decide_eq_false hp, List.count_cons_of_ne (by decide)]
      omega

lemma count_passages_of_turns (hm : 0 < m) {k : ℤ} (hk : travelled m x xs = m * k) :
    ((passages m mark x xs).count true : ℤ) = k := by
  rw [count_passages (u := x) hm rfl, hk, turns, turns, add_sub_right_comm, Int.add_mul_ediv_left _ _ hm.ne']
  ring

end Library.Circle
