import HesaiSdk.Library.ByteLayout
import Mathlib.Data.List.TakeWhile

/-! Reading a buffer through a pointer, without its length: what lies behind the buffer may be read too. -/

namespace Library.BufferRead

open Library.ByteLayout

/-- A read may leave the memory that is there, and what is done with the bytes may be undefined. -/
inductive Outcome (α : Type) where
  | outside
  | undefined
  | done (result : α)

variable {α : Type}

def memoryAt (memory : List UInt8) : ℕ → UInt8 := overlay memory fun _ => 0

def Decides (read : List UInt8 → Outcome α) (buffer : List UInt8) : Prop :=
  ∀ after after' : List UInt8, read (buffer ++ after) = read (buffer ++ after')

section Extent

variable (readEnd : (ℕ → UInt8) → ℕ) (use : (ℕ → UInt8) → α)

def readWithin (memory : List UInt8) : Outcome α :=
  if memory.length < readEnd (memoryAt memory) then .outside else .done (use (memoryAt memory))

def Bounded : Prop := ∀ mem mem' : ℕ → UInt8, (∀ o < readEnd mem, mem o = mem' o) →
  readEnd mem' = readEnd mem ∧ use mem' = use mem

lemma memoryAt_append {buffer after : List UInt8} {o : ℕ} (ho : o < buffer.length) :
    memoryAt (buffer ++ after) o = memoryAt buffer o := by
  simp only [memoryAt, overlay, List.getD_eq_getElem?_getD]
  rw [List.getElem?_append_left ho]

lemma memoryAt_append_zeros (buffer : List UInt8) (n : ℕ) :
    memoryAt (buffer ++ List.replicate n 0) = memoryAt buffer := by
  funext o
  rcases lt_or_ge o buffer.length with ho | ho
  · exact memoryAt_append ho
  · simp only [memoryAt, overlay, List.getD_eq_getElem?_getD]
    rw [List.getElem?_append_right ho, List.getElem?_eq_none ho, List.getElem?_replicate]
    split_ifs <;> rfl

variable {readEnd use}

lemma decides_readWithin_iff (hb : Bounded readEnd use) {buffer : List UInt8} :
    Decides (readWithin readEnd use) buffer ↔ readEnd (memoryAt buffer) ≤ buffer.length := by
  constructor
  · intro hd
    by_contra hover
    have hlonger := hd [] (List.replicate (readEnd (memoryAt buffer)) 0)
    rw [readWithin, readWithin, memoryAt_append_zeros, List.append_nil, if_pos (not_le.mp hover), if_neg] at hlonger
    · contradiction
    · rw [List.length_append, List.length_replicate]
      omega
  · intro hend
    have hread (after : List UInt8) :
        readWithin readEnd use (buffer ++ after) = .done (use (memoryAt buffer)) := by
      obtain ⟨heq, huse⟩ := hb (memoryAt buffer) (memoryAt (buffer ++ after)) fun o ho =>
        (memoryAt_append (ho.trans_le hend)).symm
      rw [readWithin, heq, huse, if_neg]
      rw [List.length_append]
      omega
    intro after after'
    rw [hread, hread]

end Extent

section Terminated

/-- The characters before the terminating zero. -/
def cString (memory : List UInt8) : Option (List Char) :=
  if 0 ∈ memory then some ((memory.takeWhile (· ≠ 0)).map fun b => Char.ofNat b.toNat) else none

def readString (use : List Char → Option α) (memory : List UInt8) : Outcome α :=
  match cString memory with
  | none => .outside
  | some text =>
    match use text with
    | none => .undefined
    | some result => .done result

lemma cString_append {buffer : List UInt8} (h : 0 ∈ buffer) (after : List UInt8) :
    cString (buffer ++ after) = cString buffer := by
  have hshort : (buffer.takeWhile (· ≠ 0)).length ≠ buffer.length := by
    intro hlength
    have hall := List.takeWhile_eq_self_iff.mp ((List.takeWhile_prefix _).eq_of_length hlength)
    exact absurd (hall 0 h) (by decide)
  rw [cString, cString, if_pos h, if_pos (List.mem_append_left after h), List.takeWhile_append, if_neg hshort]

lemma readString_eq_outside_iff {use : List Char → Option α} {memory : List UInt8} :
    readString use memory = .outside ↔ 0 ∉ memory := by
  by_cases h : 0 ∈ memory
  · rw [readString, cString, if_pos h]
    refine iff_of_false ?_ (not_not_intro h)
    dsimp only
    split <;> exact nofun
  · rw [readString, cString, if_neg h]
    exact iff_of_true rfl h

lemma decides_readString_iff {use : List Char → Option α} {buffer : List UInt8} :
    Decides (readString use) buffer ↔ 0 ∈ buffer := by
  constructor
  · intro hd
    by_contra hopen
    have hzero := hd [] [0]
    rw [List.append_nil, readString_eq_outside_iff.mpr hopen] at hzero
    exact readString_eq_outside_iff.mp hzero.symm (by simp)
  · intro h after after'
    rw [readString, readString, cString_append h, cString_append h]

end Terminated

end Library.BufferRead
