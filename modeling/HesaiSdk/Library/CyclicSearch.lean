import Mathlib.Data.List.Range
import Mathlib.Tactic.Lemma

/-! The search for a hit among the indices below `m`, in turn and back to 0 after the last one. -/

namespace Library.CyclicSearch

variable {hit : ℕ → Bool} {m n k : ℕ}

/-- Gives up after `tries` indices. -/
def search (hit : ℕ → Bool) (m : ℕ) : ℕ → ℕ → Option ℕ
  | 0, _ => none
  | tries + 1, i => if hit i then some i else search hit m tries ((i + 1) % m)

lemma search_eq_find (tries i : ℕ) (h : i + tries ≤ m) :
    search hit m tries i = (List.range' i tries).find? hit := by
  induction tries generalizing i with
  | zero => rfl
  | succ tries ih =>
    rw [search, List.range'_succ, List.find?_cons]
    cases hit i with
    | true => rfl
    | false =>
      rcases Nat.lt_or_eq_of_le h with hlt | heq
      · rw [Nat.mod_eq_of_lt (by omega)]
        exact ih (i + 1) (by omega)
      · cases tries with
        | zero => rfl
        | succ tries =>
          rw [Nat.mod_eq_of_lt (by omega)]
          exact ih (i + 1) (by omega)

lemma search_turn : search hit m m 0 = (List.range m).find? hit := by
  rw [search_eq_find m 0 (Nat.zero_add m).le, List.range_eq_range']

lemma find_range_eq_none : (List.range m).find? hit = none ↔ ∀ i < m, hit i = false := by
  simp only [List.find?_eq_none, List.mem_range, Bool.not_eq_true]

lemma find_range_eq_some : (List.range m).find? hit = some k ↔ k < m ∧ hit k = true ∧ ∀ i < k, hit i = false := by
  rw [List.find?_range_eq_some]
  constructor
  · rintro ⟨hk, hm, hlow⟩
    refine ⟨List.mem_range.mp hm, hk, fun i hi => ?_⟩
    simpa using hlow i hi
  · rintro ⟨hm, hk, hlow⟩
    refine ⟨hk, List.mem_range.mpr hm, fun i hi => ?_⟩
    simpa using hlow i hi

lemma find_range_isSome : ((List.range m).find? hit).isSome = true ↔ ∃ i < m, hit i = true := by
  simp only [List.find?_isSome, List.mem_range]

lemma find_range_le (h : m ≤ n) : (List.range m).find? hit = (List.range n).find? hit ↔
    (∃ i < m, hit i = true) ∨ ∀ i, m ≤ i → i < n → hit i = false := by
  constructor
  · intro heq
    by_cases hm : ∃ i < m, hit i = true
    · exact Or.inl hm
    · refine Or.inr fun i _ hi => ?_
      have hnone : (List.range m).find? hit = none :=
        find_range_eq_none.mpr fun j hj => Bool.eq_false_iff.mpr fun hj' => hm ⟨j, hj, hj'⟩
      exact find_range_eq_none.mp (heq.symm.trans hnone) i hi
  · intro hcase
    cases hfind : (List.range m).find? hit with
    | some k =>
      obtain ⟨hk, hhit, hlow⟩ := find_range_eq_some.mp hfind
      exact (find_range_eq_some.mpr ⟨hk.trans_le h, hhit, hlow⟩).symm
    | none =>
      have hlow := find_range_eq_none.mp hfind
      refine (find_range_eq_none.mpr fun i hi => ?_).symm
      rcases hcase with ⟨j, hj, hhit⟩ | hhigh
      · rw [hlow j hj] at hhit
        contradiction
      · by_cases him : i < m
        · exact hlow i him
        · exact hhigh i (not_lt.mp him) hi

end Library.CyclicSearch
