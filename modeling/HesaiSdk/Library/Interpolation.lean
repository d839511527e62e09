import Mathlib.Algebra.BigOperators.Group.List.Basic
import Mathlib.Algebra.Order.Ring.Rat
import Mathlib.Tactic.Lemma
import Mathlib.Tactic.Ring

/-! Tables that are read between their entries. -/

namespace Library.Interpolation

variable {table table' : ℤ → ℚ} {ws : List (ℤ × ℚ)}

def weigh (table : ℤ → ℚ) (ws : List (ℤ × ℚ)) : ℚ := (ws.map fun w => table w.1 * w.2).sum

/-- The part `t` of the way from an entry to the next one. -/
def between (i : ℤ) (t : ℚ) : List (ℤ × ℚ) := [(i, 1 - t), (i + 1, t)]

def InTable (n : ℕ) (ws : List (ℤ × ℚ)) : Prop := ∀ w ∈ ws, w.2 ≠ 0 → 0 ≤ w.1 ∧ w.1 < n

@[simp] lemma weigh_nil : weigh table [] = 0 := rfl

lemma weigh_single (i : ℤ) : weigh table [(i, 1)] = table i := by
  simp [weigh]

lemma weigh_between (i : ℤ) (t : ℚ) : weigh table (between i t) = table i * (1 - t) + table (i + 1) * t := by
  simp [weigh, between]

lemma weigh_between_zero (i : ℤ) : weigh table (between i 0) = table i := by
  rw [weigh_between]
  ring

lemma inTable_nil {n : ℕ} : InTable n [] := fun _ h => absurd h List.not_mem_nil

lemma inTable_between {n : ℕ} {i : ℤ} {t : ℚ} (h0 : 0 ≤ i) (hn : i + 1 < n) : InTable n (between i t) := by
  intro w hw _
  rcases List.mem_cons.mp hw with rfl | hw
  · exact ⟨h0, by show i < n; omega⟩
  · obtain rfl := List.mem_singleton.mp hw
    exact ⟨by show 0 ≤ i + 1; omega, hn⟩

/-- An entry without weight may lie outside of the table. -/
lemma inTable_between_zero {n : ℕ} {i : ℤ} (h0 : 0 ≤ i) (hn : i < n) : InTable n (between i 0) := by
  intro w hw hweight
  rcases List.mem_cons.mp hw with rfl | hw
  · exact ⟨h0, hn⟩
  · obtain rfl := List.mem_singleton.mp hw
    contradiction

lemma weigh_congr {n : ℕ} (hws : InTable n ws) (h : ∀ i : ℤ, 0 ≤ i → i < n → table i = table' i) :
    weigh table ws = weigh table' ws := by
  induction ws with
  | nil => rfl
  | cons w ws ih =>
    rw [weigh, weigh, List.map_cons, List.map_cons, List.sum_cons, List.sum_cons]
    have hrest := ih fun v hv => hws v (List.mem_cons_of_mem w hv)
    rw [weigh, weigh] at hrest
    rw [hrest]
    congr 1
    by_cases hzero : w.2 = 0
    · rw [hzero, mul_zero, mul_zero]
    · obtain ⟨h0, hn⟩ := hws w List.mem_cons_self hzero
      rw [h w.1 h0 hn]

end Library.Interpolation
