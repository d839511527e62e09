import Mathlib.Data.List.SplitBy
import Mathlib.Tactic.Lemma

/-! A list that is read from the front and cut into pieces: where two neighbours part, and where a piece is full. -/

namespace Library.Segments

variable {α : Type*} {same : α → α → Bool} {n : ℕ} {pieces : List (List α)} {piece l : List α} {a : α}

def Ends (same : α → α → Bool) (n : ℕ) (x y : List α) : Prop :=
  x.length = n ∨ ∀ u ∈ x.getLast?, ∀ v ∈ y.head?, same u v = false

structure Pieces (same : α → α → Bool) (n : ℕ) (pieces : List (List α)) (l : List α) : Prop where
  flatten : pieces.flatten = l
  nonempty : [] ∉ pieces
  length : ∀ piece ∈ pieces, piece.length ≤ n
  within : ∀ piece ∈ pieces, piece.IsChain fun x y => same x y
  between : pieces.IsChain (Ends same n)

namespace Pieces

lemma nil : Pieces same n [] [] := ⟨rfl, List.not_mem_nil, nofun, nofun, List.IsChain.nil⟩

lemma begin (h : Pieces same n pieces l) (hn : 0 < n) (hends : ∀ piece ∈ pieces.getLast?, Ends same n piece [a]) :
    Pieces same n (pieces ++ [[a]]) (l ++ [a]) where
  flatten := by rw [List.flatten_append, h.flatten, List.flatten_singleton]
  nonempty := by
    rw [List.mem_append, List.mem_singleton]
    exact fun hmem => hmem.elim h.nonempty (by simp)
  length := by
    intro piece hmem
    rcases List.mem_append.mp hmem with hold | hnew
    · exact h.length piece hold
    · obtain rfl := List.mem_singleton.mp hnew
      exact hn
  within := by
    intro piece hmem
    rcases List.mem_append.mp hmem with hold | hnew
    · exact h.within piece hold
    · obtain rfl := List.mem_singleton.mp hnew
      exact List.IsChain.singleton a
  between := by
    refine List.isChain_append.mpr ⟨h.between, List.IsChain.singleton _, fun x hx y hy => ?_⟩
    obtain rfl := Option.some.inj hy
    exact hends x hx

lemma extend (h : Pieces same n (pieces ++ [piece]) l) (hlen : piece.length < n)
    (hsame : ∀ u ∈ piece.getLast?, same u a = true) : Pieces same n (pieces ++ [piece ++ [a]]) (l ++ [a]) where
  flatten := by
    rw [← h.flatten]
    simp
  nonempty := by
    have hnil := h.nonempty
    simp only [List.mem_append, List.mem_singleton, not_or] at hnil ⊢
    exact ⟨hnil.1, by simp⟩
  length := by
    intro x hmem
    rcases List.mem_append.mp hmem with hold | hnew
    · exact h.length x (List.mem_append_left _ hold)
    · obtain rfl := List.mem_singleton.mp hnew
      rw [List.length_append]
      exact hlen
  within := by
    intro x hmem
    rcases List.mem_append.mp hmem with hold | hnew
    · exact h.within x (List.mem_append_left _ hold)
    · obtain rfl := List.mem_singleton.mp hnew
      refine List.isChain_append.mpr ⟨h.within piece (by simp), List.IsChain.singleton a, fun u hu v hv => ?_⟩
      obtain rfl := Option.some.inj hv
      exact hsame u hu
  between := by
    obtain ⟨hbefore, -, hlast⟩ := List.isChain_append.mp h.between
    refine List.isChain_append.mpr ⟨hbefore, List.IsChain.singleton _, fun x hx y hy => ?_⟩
    obtain rfl := Option.some.inj hy
    have hne : piece ≠ [] := by
      rintro rfl
      exact h.nonempty (by simp)
    rcases hlast x hx piece rfl with hfull | hpart
    · exact Or.inl hfull
    · refine Or.inr fun u hu v hv => hpart u hu v ?_
      rwa [List.head?_append_of_ne_nil _ hne] at hv

/-- Where no piece but the last is full, the pieces are the longest ones without a cut in them. -/
lemma eq_splitBy (h : Pieces same n pieces l) (hsmall : ∀ piece ∈ pieces.dropLast, piece.length < n) :
    pieces = l.splitBy same := by
  refine (List.splitBy_eq_iff.mpr ⟨h.flatten.symm, h.nonempty, h.within, ?_⟩).symm
  refine List.isChain_iff_getElem.mpr fun i hi => ?_
  have hne (j : ℕ) (hj : j < pieces.length) : pieces[j] ≠ [] := fun hnil => h.nonempty (hnil ▸ List.getElem_mem hj)
  have hi' : i < pieces.dropLast.length := by
    rw [List.length_dropLast]
    omega
  have hmem : pieces[i] ∈ pieces.dropLast := List.getElem_dropLast hi' ▸ List.getElem_mem hi'
  rcases List.isChain_iff_getElem.mp h.between i hi with hfull | hpart
  · exact absurd hfull (hsmall _ hmem).ne
  · exact ⟨hne i _, hne (i + 1) hi, hpart _ (List.getLast_mem_getLast? _) _ (List.head_mem_head? _)⟩

end Pieces

end Library.Segments
