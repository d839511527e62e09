import Mathlib.Data.List.GetD
import Mathlib.Order.Nat
import Mathlib.Tactic.ByContra
import Mathlib.Tactic.Lemma

/-! Remainders modulo a polynomial over GF(2), the most significant bit first. -/

namespace Library.BitSerial

variable {w : ℕ} (poly : BitVec w)

/-- One bit of the message comes in beside the most significant bit of the register. -/
def shiftIn (r : BitVec w) (b : Bool) : BitVec w := (r <<< 1) ^^^ (if r.msb ^^ b then poly else 0#w)

def serial (bits : List Bool) (r : BitVec w) : BitVec w := bits.foldl (shiftIn poly) r

def shifts : ℕ → BitVec w → BitVec w
  | 0, r => r
  | n + 1, r => shifts n (shiftIn poly r false)

/-- The bits of a message of at most `w` bits, at the top of a register. -/
def align (w : ℕ) : List Bool → BitVec w
  | [] => 0#w
  | b :: bits => (if b then BitVec.intMin w else 0#w) ^^^ (align w bits >>> 1)

def bitsOf {n : ℕ} (x : BitVec n) : List Bool := (List.range n).map x.getMsbD

variable {poly} {r s : BitVec w} {b c : Bool} {bits : List Bool}

lemma ite_xor :
    (if (b ^^ c) = true then poly else 0#w) = (if b then poly else 0#w) ^^^ (if c then poly else 0#w) := by
  cases b <;> cases c <;> simp

lemma shiftIn_xor : shiftIn poly (r ^^^ s) (b ^^ c) = shiftIn poly r b ^^^ shiftIn poly s c := by
  have hbit : ((r ^^^ s).msb ^^ (b ^^ c)) = ((r.msb ^^ b) ^^ (s.msb ^^ c)) := by
    rw [BitVec.msb_xor, Bool.xor_assoc, Bool.xor_assoc, Bool.xor_left_comm s.msb b c]
  rw [shiftIn, shiftIn, shiftIn, hbit, ite_xor, BitVec.shiftLeft_xor_distrib]
  ac_rfl

lemma shiftIn_xor_false : shiftIn poly (r ^^^ s) false = shiftIn poly r false ^^^ shiftIn poly s false :=
  shiftIn_xor (b := false) (c := false)

lemma shifts_xor (n : ℕ) : shifts poly n (r ^^^ s) = shifts poly n r ^^^ shifts poly n s := by
  induction n generalizing r s with
  | zero => rfl
  | succ n ih =>
    rw [shifts, shiftIn_xor_false, ih]
    rfl

lemma shiftIn_of_msb (h : r.msb = false) : shiftIn poly r false = r <<< 1 := by
  rw [shiftIn, h]
  exact BitVec.xor_zero

lemma shiftIn_intMin : shiftIn poly r b = shiftIn poly (r ^^^ (if b then BitVec.intMin w else 0#w)) false := by
  cases b with
  | false => rw [if_neg Bool.false_ne_true, BitVec.xor_zero]
  | true =>
    by_cases hw : 0 < w
    · have hmsb : (r ^^^ BitVec.intMin w).msb = !r.msb := by
        rw [BitVec.msb_xor, BitVec.msb_intMin, decide_eq_true hw, Bool.xor_true]
      have hshift : (r ^^^ BitVec.intMin w) <<< 1 = r <<< 1 := by
        apply BitVec.eq_of_getMsbD_eq
        intro i hi
        rw [BitVec.getMsbD_shiftLeft, BitVec.getMsbD_shiftLeft, BitVec.getMsbD_xor, BitVec.getMsbD_intMin,
          decide_eq_false (Nat.succ_ne_zero i), Bool.and_false, Bool.xor_false]
      rw [if_pos rfl, shiftIn, shiftIn, hmsb, hshift, Bool.xor_true, Bool.xor_false]
    · obtain rfl : w = 0 := by omega
      exact Subsingleton.elim _ _

lemma getMsbD_align {i : ℕ} (hi : i < w) : (align w bits).getMsbD i = bits.getD i false := by
  induction bits generalizing i with
  | nil => rw [align, BitVec.getMsbD_zero, List.getD_nil]
  | cons b bits ih =>
    have htop : (if b then BitVec.intMin w else 0#w).getMsbD i = (b && decide (i = 0)) := by
      cases b
      · exact BitVec.getMsbD_zero
      · rw [if_pos rfl, BitVec.getMsbD_intMin, decide_eq_true (Nat.zero_lt_of_lt hi)]
    rw [align, BitVec.getMsbD_xor, htop, BitVec.getMsbD_ushiftRight, decide_eq_true hi, Bool.true_and]
    cases i with
    | zero => simp
    | succ i =>
      rw [Nat.add_sub_cancel, ih (Nat.lt_of_succ_lt hi)]
      simp

lemma align_cons_shiftLeft (h : bits.length < w) : align w (b :: bits) <<< 1 = align w bits := by
  apply BitVec.eq_of_getMsbD_eq
  intro i hi
  rw [BitVec.getMsbD_shiftLeft, getMsbD_align hi]
  by_cases hlast : i + 1 < w
  · rw [getMsbD_align hlast, List.getD_cons_succ]
  · rw [BitVec.getMsbD_of_ge _ _ (by omega), List.getD_eq_default _ _ (by omega)]

lemma msb_align_cons (hw : 0 < w) : (align w (b :: bits)).msb = b := by
  rw [BitVec.msb_eq_getMsbD_zero, getMsbD_align hw, List.getD_cons_zero]

/-- The bits of a message one by one are those bits laid over the register, and as many shifts. -/
lemma serial_eq_shifts (h : bits.length ≤ w) : serial poly bits r = shifts poly bits.length (r ^^^ align w bits) := by
  induction bits generalizing r with
  | nil => rw [align, BitVec.xor_zero]; rfl
  | cons b bits ih =>
    rw [List.length_cons] at h
    have hlow : align w (false :: bits) = align w bits >>> 1 := by
      rw [align, if_neg Bool.false_ne_true, BitVec.zero_xor]
    have hrest : shiftIn poly (align w bits >>> 1) false = align w bits := by
      rw [← hlow, shiftIn_of_msb (msb_align_cons (by omega)), align_cons_shiftLeft h]
    have hstep : shiftIn poly (r ^^^ align w (b :: bits)) false = shiftIn poly r b ^^^ align w bits := by
      rw [align, ← BitVec.xor_assoc, shiftIn_xor_false, ← shiftIn_intMin, hrest]
    show serial poly bits (shiftIn poly r b) = shifts poly bits.length _
    rw [ih (Nat.le_of_succ_le h), hstep]

lemma shifts_of_clear {n : ℕ} (h : ∀ i < n, r.getMsbD i = false) : shifts poly n r = r <<< n := by
  induction n generalizing r with
  | zero => exact (BitVec.shiftLeft_zero r).symm
  | succ n ih =>
    have hmsb : r.msb = false := (BitVec.msb_eq_getMsbD_zero r).trans (h 0 (Nat.succ_pos n))
    rw [shifts, shiftIn_of_msb hmsb, ih, ← BitVec.shiftLeft_add, Nat.add_comm]
    intro i hi
    rw [BitVec.getMsbD_shiftLeft]
    exact h (i + 1) (by omega)

section Chunks

variable {n : ℕ} {m : BitVec n} {i : ℕ}

lemma length_bitsOf : (bitsOf m).length = n := by
  rw [bitsOf, List.length_map, List.length_range]

lemma getD_bitsOf : (bitsOf m).getD i false = m.getMsbD i := by
  by_cases hi : i < n
  · rw [List.getD_eq_getElem _ _ (hi.trans_eq length_bitsOf.symm)]
    simp only [bitsOf, List.getElem_map, List.getElem_range]
  · rw [List.getD_eq_default _ _ (length_bitsOf.trans_le (Nat.le_of_not_lt hi)),
      BitVec.getMsbD_of_ge _ _ (Nat.le_of_not_lt hi)]

lemma getMsbD_top (hn : n ≤ w) (hi : i < n) : ((r >>> (w - n)).setWidth n).getMsbD i = r.getMsbD i := by
  rw [BitVec.getMsbD_setWidth, BitVec.getMsbD_ushiftRight, decide_eq_true (show n - w ≤ i by omega),
    decide_eq_true (show i + w - n < w by omega), decide_eq_false (show ¬i + w - n < w - n by omega),
    show i + w - n - (w - n) = i by omega]
  simp only [Bool.not_false, Bool.true_and]

lemma align_shiftLeft (hn : bits.length = n) : align w bits <<< n = 0#w := by
  apply BitVec.eq_of_getMsbD_eq
  intro i hi
  rw [BitVec.getMsbD_shiftLeft, BitVec.getMsbD_zero]
  by_cases hlt : i + n < w
  · rw [getMsbD_align hlt, List.getD_eq_default _ _ (by omega)]
  · exact BitVec.getMsbD_of_ge _ _ (Nat.le_of_not_lt hlt)

/-- A chunk of `n` bits moves the register up by `n`; what falls out of it, with the chunk laid over,
is a message of its own. -/
lemma serial_chunk (hn : n ≤ w) : serial poly (bitsOf m) r =
    (r <<< n) ^^^ serial poly (bitsOf ((r >>> (w - n)).setWidth n ^^^ m)) 0#w := by
  let out := (r >>> (w - n)).setWidth n ^^^ m
  have hclear : ∀ i < n, (r ^^^ align w (bitsOf m) ^^^ align w (bitsOf out)).getMsbD i = false := by
    intro i hi
    rw [BitVec.getMsbD_xor, BitVec.getMsbD_xor, getMsbD_align (hi.trans_le hn), getMsbD_align (hi.trans_le hn),
      getD_bitsOf, getD_bitsOf, BitVec.getMsbD_xor, getMsbD_top hn hi, Bool.xor_self]
  have hsplit : r ^^^ align w (bitsOf m) =
      (r ^^^ align w (bitsOf m) ^^^ align w (bitsOf out)) ^^^ align w (bitsOf out) := by
    rw [BitVec.xor_assoc _ _ (align w (bitsOf out)), BitVec.xor_self, BitVec.xor_zero]
  have hshift : (r ^^^ align w (bitsOf m) ^^^ align w (bitsOf out)) <<< n = r <<< n := by
    rw [BitVec.shiftLeft_xor_distrib, BitVec.shiftLeft_xor_distrib, align_shiftLeft length_bitsOf,
      align_shiftLeft length_bitsOf, BitVec.xor_zero, BitVec.xor_zero]
  rw [serial_eq_shifts (length_bitsOf.trans_le hn), serial_eq_shifts (length_bitsOf.trans_le hn), length_bitsOf,
    length_bitsOf, BitVec.zero_xor, hsplit, shifts_xor, shifts_of_clear hclear, hshift]

end Chunks

section Marker

lemma and_intMin : r &&& BitVec.intMin w = if r.msb then BitVec.intMin w else 0#w := by
  apply BitVec.eq_of_getMsbD_eq
  intro i hi
  rw [BitVec.getMsbD_and, BitVec.getMsbD_intMin, BitVec.msb_eq_getMsbD_zero]
  by_cases h0 : i = 0
  · subst h0
    cases r.getMsbD 0 <;> simp [BitVec.getMsbD_intMin]
  · rw [decide_eq_false h0, Bool.and_false, Bool.and_false]
    split_ifs
    · rw [BitVec.getMsbD_intMin, decide_eq_false h0, Bool.and_false]
    · exact BitVec.getMsbD_zero.symm

lemma and_intMin_ne_zero (hw : 0 < w) : r &&& BitVec.intMin w ≠ 0#w ↔ r.msb = true := by
  have htop : BitVec.intMin w ≠ 0#w := by
    intro heq
    have hbit := congrArg BitVec.msb heq
    rw [BitVec.msb_intMin, decide_eq_true hw, BitVec.msb_zero] at hbit
    exact Bool.false_ne_true hbit.symm
  rw [and_intMin]
  split_ifs with h
  · exact iff_of_true htop h
  · exact iff_of_false (fun hne => hne rfl) h

/-- A one behind the bits tells how many of them are left. -/
lemma align_concat_eq_intMin (h : bits.length < w) : align w (bits ++ [true]) = BitVec.intMin w ↔ bits = [] := by
  constructor
  · intro heq
    by_contra hne
    have hbit := congrArg (BitVec.getMsbD · bits.length) heq
    simp only [getMsbD_align h, BitVec.getMsbD_intMin] at hbit
    rw [List.getD_append_right _ _ _ _ (le_refl _), Nat.sub_self, List.getD_cons_zero,
      decide_eq_false (mt List.length_eq_zero_iff.mp hne), Bool.and_false] at hbit
    exact Bool.false_ne_true hbit.symm
  · rintro rfl
    rw [List.nil_append, align, align, if_pos rfl, BitVec.zero_ushiftRight, BitVec.xor_zero]

end Marker

end Library.BitSerial
