import Mathlib.Data.List.Forall2
import Mathlib.Tactic.Lemma

/-! Messages one after the other in a stream, each of which says where it ends. -/

namespace Library.MessageStream

variable {α β : Type*} (read : List β → Option (α × List β))

/-- At most `n` messages. -/
def readAll : ℕ → List β → Option (List α)
  | _, [] => some []
  | 0, _ :: _ => none
  | n + 1, b :: stream => (read (b :: stream)).bind fun first => (readAll n first.2).map (first.1 :: ·)

/-- `read` takes the message off, whatever comes behind it. -/
structure Spells (message : α) (piece : List β) : Prop where
  ne_nil : piece ≠ []
  read_append : ∀ rest, read (piece ++ rest) = some (message, rest)

variable {read} {messages : List α} {pieces : List (List β)} {n : ℕ}

lemma Spells.length_le (h : List.Forall₂ (Spells read) messages pieces) : messages.length ≤ pieces.flatten.length := by
  induction h with
  | nil => exact Nat.le_refl 0
  | cons hpiece _ ih =>
    have hpos := List.length_pos_iff.mpr hpiece.ne_nil
    rw [List.length_cons, List.flatten_cons, List.length_append]
    omega

lemma Spells.readAll_cons {message : α} {piece : List β} (h : Spells read message piece) (n : ℕ) (rest : List β) :
    readAll read (n + 1) (piece ++ rest) = (readAll read n rest).map (message :: ·) := by
  have hread := h.read_append rest
  obtain ⟨b, stream, hstream⟩ := List.exists_cons_of_ne_nil (List.append_ne_nil_of_left_ne_nil h.ne_nil rest)
  rw [hstream] at hread ⊢
  rw [readAll, hread, Option.bind_some]

lemma Spells.readAll_flatten (h : List.Forall₂ (Spells read) messages pieces) (hn : messages.length ≤ n) :
    readAll read n pieces.flatten = some messages := by
  induction h generalizing n with
  | nil =>
    rw [List.flatten_nil]
    unfold readAll
    rfl
  | cons hpiece _ ih =>
    obtain ⟨m, rfl⟩ := Nat.exists_eq_succ_of_ne_zero (Nat.ne_zero_of_lt hn)
    rw [List.flatten_cons, Nat.succ_eq_add_one, hpiece.readAll_cons, ih (Nat.le_of_succ_le_succ hn), Option.map_some]

end Library.MessageStream
