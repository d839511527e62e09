import HesaiSdk.Library.TextStream
import Mathlib.Algebra.Order.Field.Rat
import Mathlib.Algebra.Order.Ring.Rat
import Mathlib.Data.List.TakeWhile
import Mathlib.Tactic.FieldSimp
import Mathlib.Tactic.Ring

/-! Writing the lines and the numbers that `TextStream` reads. -/

namespace Library.TextStream

section Lines

variable {delimiter : Char} {s : List Char}

lemma getlines_of_notMem (h : delimiter ∉ s) (hne : s ≠ []) : getlines delimiter s = [s] := by
  induction s with
  | nil => exact absurd rfl hne
  | cons c s ih =>
    rw [List.mem_cons, not_or] at h
    rw [getlines, if_neg (Ne.symm h.1)]
    cases s with
    | nil => rfl
    | cons c' s =>
      rw [ih h.2 (List.cons_ne_nil _ _)]

lemma getlines_append_delimiter (h : delimiter ∉ s) (rest : List Char) :
    getlines delimiter (s ++ delimiter :: rest) = s :: getlines delimiter rest := by
  induction s with
  | nil => rw [List.nil_append, getlines, if_pos rfl]
  | cons c s ih =>
    rw [List.mem_cons, not_or] at h
    rw [List.cons_append, getlines, if_neg (Ne.symm h.1), ih h.2]

/-- Each piece with the delimiter behind it. -/
def writeLines (delimiter : Char) (pieces : List (List Char)) : List Char :=
  pieces.flatMap fun piece => piece ++ [delimiter]

lemma getlines_writeLines_append {pieces : List (List Char)} (h : ∀ piece ∈ pieces, delimiter ∉ piece)
    (rest : List Char) :
    getlines delimiter (writeLines delimiter pieces ++ rest) = pieces ++ getlines delimiter rest := by
  induction pieces with
  | nil => rfl
  | cons piece pieces ih =>
    rw [writeLines, List.flatMap_cons, List.append_assoc, List.append_assoc, List.singleton_append,
      getlines_append_delimiter (h piece List.mem_cons_self)]
    exact congrArg (List.cons piece) (ih fun p hp => h p (List.mem_cons_of_mem _ hp))

lemma getlines_writeLines {pieces : List (List Char)} (h : ∀ piece ∈ pieces, delimiter ∉ piece) :
    getlines delimiter (writeLines delimiter pieces) = pieces := by
  have hread := getlines_writeLines_append h []
  rwa [List.append_nil, getlines, List.append_nil] at hread

lemma nthGetline_writeLines {pieces : List (List Char)} (h : ∀ piece ∈ pieces, delimiter ∉ piece) (rest : List Char)
    {n : ℕ} (hn : n < pieces.length) : nthGetline delimiter (writeLines delimiter pieces ++ rest) n = pieces[n] := by
  rw [nthGetline, getlines_writeLines_append h, if_pos (by rw [List.length_append]; omega),
    List.getD_eq_getElem?_getD, List.getElem?_append_left hn, List.getElem?_eq_getElem hn, Option.getD_some]

/-- The fields of a line, with the delimiter between them. -/
def writeFields (delimiter : Char) : List (List Char) → List Char
  | [] => []
  | [last] => last
  | field :: next :: fields => field ++ delimiter :: writeFields delimiter (next :: fields)

/-- A blank field at the end would be lost. -/
lemma getlines_writeFields {fields : List (List Char)} (h : ∀ field ∈ fields, delimiter ∉ field)
    (hlast : ∀ last ∈ fields.getLast?, last ≠ []) : getlines delimiter (writeFields delimiter fields) = fields := by
  induction fields using writeFields.induct with
  | case1 => rfl
  | case2 last => exact getlines_of_notMem (h last List.mem_cons_self) (hlast last rfl)
  | case3 field next fields ih =>
    rw [writeFields, getlines_append_delimiter (h field List.mem_cons_self),
      ih (fun p hp => h p (List.mem_cons_of_mem _ hp)) (by rwa [List.getLast?_cons_cons] at hlast)]

lemma notMem_writeFields {c : Char} {fields : List (List Char)} (hd : c ≠ delimiter)
    (h : ∀ field ∈ fields, c ∉ field) : c ∉ writeFields delimiter fields := by
  induction fields using writeFields.induct with
  | case1 => exact List.not_mem_nil
  | case2 last => exact h last List.mem_cons_self
  | case3 field next fields ih =>
    rw [writeFields, List.mem_append, List.mem_cons, not_or, not_or]
    exact ⟨h field List.mem_cons_self, hd, ih fun p hp => h p (List.mem_cons_of_mem _ hp)⟩

end Lines

section Digits

def Digits (s : List Char) : Prop := ∀ c ∈ s, c.isDigit = true

variable {s rest : List Char}

lemma Digits.append {t : List Char} (hs : Digits s) (ht : Digits t) : Digits (s ++ t) := fun c hc =>
  (List.mem_append.mp hc).elim (hs c) (ht c)

lemma Digits.takeWhile (h : Digits s) (hrest : ∀ c ∈ rest.head?, c.isDigit = false) :
    (s ++ rest).takeWhile Char.isDigit = s := by
  rw [List.takeWhile_append_of_pos h]
  cases rest with
  | nil => rw [List.takeWhile_nil, List.append_nil]
  | cons c rest => rw [List.takeWhile_cons_of_neg (by simp [hrest c rfl]), List.append_nil]

lemma Digits.dropWhile (h : Digits s) (hrest : ∀ c ∈ rest.head?, c.isDigit = false) :
    (s ++ rest).dropWhile Char.isDigit = rest := by
  rw [List.dropWhile_append_of_pos h]
  cases rest with
  | nil => rfl
  | cons c rest => rw [List.dropWhile_cons_of_neg (by simp [hrest c rfl])]

lemma Digits.takeWhile_self (h : Digits s) : s.takeWhile Char.isDigit = s := List.takeWhile_eq_self_iff.mpr h

lemma Digits.dropWhile_self (h : Digits s) : s.dropWhile Char.isDigit = [] := List.dropWhile_eq_nil_iff.mpr h

lemma Digits.notMem (h : Digits s) {c : Char} (hc : c.isDigit = false) : c ∉ s := fun hmem =>
  absurd (h c hmem) (by simp [hc])

lemma digitsValue_append (s t : List Char) :
    digitsValue (s ++ t) = digitsValue s * 10 ^ t.length + digitsValue t := by
  rw [digitsValue, List.reverse_append, List.map_append, Nat.ofDigits_append, List.length_map, List.length_reverse,
    digitsValue, digitsValue, Nat.mul_comm, Nat.add_comm]

lemma digitsValue_digitChar {d : ℕ} (hd : d < 10) : digitsValue [d.digitChar] = d := by
  rw [digitsValue, List.reverse_singleton, List.map_singleton, Nat.ofDigits_singleton]
  exact Nat.toNat_digitChar_sub_48_of_lt_ten hd

def writeNat (n : ℕ) : List Char := Nat.toDigits 10 n

lemma digits_writeNat (n : ℕ) : Digits (writeNat n) := fun _ => Nat.isDigit_of_mem_toDigits (by decide) (by decide)

lemma writeNat_ne_nil (n : ℕ) : writeNat n ≠ [] := Nat.toDigits_ne_nil

lemma digitsValue_writeNat (n : ℕ) : digitsValue (writeNat n) = n := by
  induction n using Nat.strong_induction_on with
  | _ n ih =>
    rw [writeNat, Nat.toDigits_eq_if (by decide)]
    split_ifs with h
    · exact digitsValue_digitChar h
    · have hrest := ih (n / 10) (by omega)
      rw [writeNat] at hrest
      rw [digitsValue_append, hrest, digitsValue_digitChar (Nat.mod_lt n (by decide)), List.length_singleton,
        Nat.pow_one, Nat.mul_comm, Nat.div_add_mod]

/-- The last `places` digits. -/
def writePlaces : ℕ → ℕ → List Char
  | 0, _ => []
  | places + 1, n => writePlaces places (n / 10) ++ [(n % 10).digitChar]

lemma length_writePlaces (places n : ℕ) : (writePlaces places n).length = places := by
  induction places generalizing n with
  | zero => rfl
  | succ places ih => rw [writePlaces, List.length_append, ih, List.length_singleton]

lemma digits_writePlaces (places n : ℕ) : Digits (writePlaces places n) := by
  induction places generalizing n with
  | zero => exact fun _ hc => absurd hc List.not_mem_nil
  | succ places ih =>
    refine (ih _).append fun c hc => ?_
    rw [List.mem_singleton.mp hc, Nat.isDigit_digitChar]
    exact decide_eq_true (Nat.mod_lt n (by decide))

lemma digitsValue_writePlaces (places n : ℕ) : digitsValue (writePlaces places n) = n % 10 ^ places := by
  induction places generalizing n with
  | zero => rw [Nat.pow_zero, Nat.mod_one]; rfl
  | succ places ih =>
    rw [writePlaces, digitsValue_append, ih, digitsValue_digitChar (Nat.mod_lt n (by decide)), List.length_singleton,
      Nat.pow_one, Nat.pow_succ', Nat.mod_mul, Nat.mul_comm, Nat.add_comm]

end Digits

section Numbers

lemma isSpace_of_isDigit {c : Char} (h : c.isDigit = true) : isSpace c = false := by
  simp only [Char.isDigit, Bool.and_eq_true, decide_eq_true_eq] at h
  have hlow : 48 ≤ c.val.toNat := UInt32.le_iff_toNat_le.mp h.1
  have hspace : c ≠ ' ' := by
    rintro rfl
    exact absurd hlow (by decide)
  have hcontrol : ¬c ≤ '\r' := fun hle => by
    have hhigh : c.val.toNat ≤ 13 := UInt32.le_iff_toNat_le.mp hle
    omega
  simp [isSpace, hspace, hcontrol]

/-- Behind a sign or not. -/
def withSign (negative : Bool) (s : List Char) : List Char := if negative then '-' :: s else s

variable {c : Char} {s : List Char}

lemma readSign_withSign (negative : Bool) (hc : c.isDigit = true) :
    readSign (withSign negative (c :: s)) = (negative, c :: s) := by
  cases negative with
  | true => rfl
  | false =>
    have hminus : c ≠ '-' := by
      rintro rfl
      exact absurd hc (by decide)
    have hplus : c ≠ '+' := by
      rintro rfl
      exact absurd hc (by decide)
    rw [withSign, if_neg (by decide)]
    unfold readSign
    split
    · rename_i heq
      exact absurd (List.cons.inj heq).1 hminus
    · rename_i heq
      exact absurd (List.cons.inj heq).1 hplus
    · rfl

lemma withSign_head (negative : Bool) (hc : c.isDigit = true) :
    ∃ first rest, withSign negative (c :: s) = first :: rest ∧ isSpace first = false := by
  cases negative with
  | true => exact ⟨'-', c :: s, rfl, by decide⟩
  | false => exact ⟨c, s, rfl, isSpace_of_isDigit hc⟩

/-- A number in fixed notation. -/
structure Decimal where
  negative : Bool
  mantissa : ℕ
  places : ℕ

namespace Decimal

variable (d : Decimal)

def value : ℚ := (if d.negative then -(d.mantissa : ℚ) else d.mantissa) / 10 ^ d.places

def digits : List Char := writeNat (d.mantissa / 10 ^ d.places) ++ '.' :: writePlaces d.places d.mantissa

def write : List Char := withSign d.negative d.digits

lemma exists_digits : ∃ c s, d.digits = c :: s ∧ c.isDigit = true := by
  obtain ⟨c, s, hs⟩ := List.exists_cons_of_ne_nil (writeNat_ne_nil (d.mantissa / 10 ^ d.places))
  refine ⟨c, s ++ '.' :: writePlaces d.places d.mantissa, by rw [digits, hs, List.cons_append], ?_⟩
  exact digits_writeNat _ c (hs ▸ List.mem_cons_self)

lemma notMem_write {c : Char} (hdigit : c.isDigit = false) (hsign : c ≠ '-') (hpoint : c ≠ '.') : c ∉ d.write := by
  have hdigits : c ∉ d.digits := by
    rw [digits, List.mem_append, List.mem_cons, not_or, not_or]
    exact ⟨(digits_writeNat _).notMem hdigit, hpoint, (digits_writePlaces _ _).notMem hdigit⟩
  rw [write, withSign]
  split_ifs
  · rw [List.mem_cons, not_or]
    exact ⟨hsign, hdigits⟩
  · exact hdigits

lemma write_ne_nil : d.write ≠ [] := by
  obtain ⟨c, s, hs, -⟩ := d.exists_digits
  rw [write, withSign, hs]
  split_ifs
  · exact List.cons_ne_nil _ _
  · exact List.cons_ne_nil _ _

lemma takeWhile_digits : d.digits.takeWhile Char.isDigit = writeNat (d.mantissa / 10 ^ d.places) :=
  (digits_writeNat _).takeWhile (by simp)

lemma readFraction_digits :
    readFraction (d.digits.dropWhile Char.isDigit) = (writePlaces d.places d.mantissa, []) := by
  have hplaces := digits_writePlaces d.places d.mantissa
  have hdrop : d.digits.dropWhile Char.isDigit = '.' :: writePlaces d.places d.mantissa :=
    (digits_writeNat _).dropWhile (by simp)
  rw [hdrop, readFraction, hplaces.takeWhile_self, hplaces.dropWhile_self]

lemma digitsValue_digits : digitsValue (writeNat (d.mantissa / 10 ^ d.places) ++ writePlaces d.places d.mantissa) =
    d.mantissa := by
  rw [digitsValue_append, digitsValue_writeNat, digitsValue_writePlaces, length_writePlaces, Nat.div_add_mod']

lemma scaled : (if d.negative then -(d.mantissa : ℚ) else d.mantissa) * 10 ^ ((0 : ℤ) - d.places) = d.value := by
  rw [value, zero_sub, zpow_neg, zpow_natCast, div_eq_mul_inv]

lemma readFloat_write : readFloat d.write = some d.value := by
  obtain ⟨c, s, hs, hc⟩ := d.exists_digits
  obtain ⟨first, rest, hwrite, hspace⟩ := withSign_head (s := s) d.negative hc
  have hsign := readSign_withSign (s := s) d.negative hc
  rw [← hs] at hwrite hsign
  rw [hwrite] at hsign
  have hdrop : d.write.dropWhile isSpace = first :: rest := by
    rw [write, hwrite, List.dropWhile_cons_of_neg (by simp [hspace])]
  have hne : writeNat (d.mantissa / 10 ^ d.places) ++ writePlaces d.places d.mantissa ≠ [] := by
    simp [writeNat_ne_nil]
  simp only [readFloat, hdrop, hsign, takeWhile_digits, readFraction_digits, if_neg hne, readExponent,
    digitsValue_digits, length_writePlaces, scaled]

end Decimal

/-- A number in the range of `float`: for the others `std::stof` throws. -/
structure FloatDecimal extends Decimal where
  small : (mantissa : ℚ) / 10 ^ places < 2 ^ 128 - 2 ^ 103
  normal : mantissa ≠ 0 → 2 ^ (-126 : ℤ) ≤ (mantissa : ℚ) / 10 ^ places

lemma FloatDecimal.stof_write (d : FloatDecimal) : stof d.write = some d.value := by
  obtain ⟨c, s, hs, hc⟩ := d.exists_digits
  obtain ⟨first, rest, hwrite, hspace⟩ := withSign_head (s := s) d.negative hc
  have hsign := readSign_withSign (s := s) d.negative hc
  rw [← hs] at hwrite hsign
  have hdrop : d.write.dropWhile isSpace = withSign d.negative d.digits := by
    rw [Decimal.write, hwrite, List.dropWhile_cons_of_neg (by simp [hspace])]
  have hne : writeNat (d.mantissa / 10 ^ d.places) ++ writePlaces d.places d.mantissa ≠ [] := by
    simp [writeNat_ne_nil]
  have hvalue : (d.mantissa : ℚ) * 10 ^ ((0 : ℤ) - d.places) = d.mantissa / 10 ^ d.places := by
    rw [zero_sub, zpow_neg, zpow_natCast, div_eq_mul_inv]
  simp only [stof, hdrop, hsign, Decimal.takeWhile_digits, Decimal.readFraction_digits, readExponent,
    Option.getD_some, Decimal.digitsValue_digits, length_writePlaces, hvalue]
  rw [if_neg]
  · rw [Decimal.value]
    split_ifs
    · rw [neg_div]
    · rfl
  · rintro (h | h | ⟨hpos, hlt⟩)
    · exact hne h
    · exact absurd h (not_le.mpr d.small)
    · refine absurd hlt (not_lt.mpr (d.normal ?_))
      rintro h0
      rw [h0, Nat.cast_zero, zero_div] at hpos
      exact lt_irrefl _ hpos

lemma exists_writeNat (n : ℕ) : ∃ c s, writeNat n = c :: s ∧ c.isDigit = true ∧ isSpace c = false ∧
    readSign (c :: s) = (false, c :: s) := by
  obtain ⟨c, s, hs⟩ := List.exists_cons_of_ne_nil (writeNat_ne_nil n)
  have hc : c.isDigit = true := digits_writeNat n c (hs ▸ List.mem_cons_self)
  exact ⟨c, s, hs, hc, isSpace_of_isDigit hc, readSign_withSign false hc⟩

lemma dropWhile_writeNat (n : ℕ) : (writeNat n).dropWhile isSpace = writeNat n := by
  obtain ⟨c, s, hs, -, hspace, -⟩ := exists_writeNat n
  rw [hs, List.dropWhile_cons_of_neg (by simp [hspace])]

lemma readSign_writeNat (n : ℕ) : readSign (writeNat n) = (false, writeNat n) := by
  obtain ⟨c, s, hs, -, -, hsign⟩ := exists_writeNat n
  rw [hs, hsign]

lemma readInt_writeNat {n : ℕ} (hn : n < 2 ^ 31) : readInt (writeNat n) = some (n : ℤ) := by
  obtain ⟨c, s, hs, -, hspace, hsign⟩ := exists_writeNat n
  have htake := (digits_writeNat n).takeWhile_self
  rw [hs] at htake
  have hvalue : (digitsValue (c :: s) : ℤ) = n := by rw [← hs, digitsValue_writeNat]
  rw [hs, readInt, List.dropWhile_cons_of_neg (by simp [hspace])]
  simp only [hsign, htake, hvalue, if_neg (by decide : ¬false = true)]
  congr 1
  omega

lemma stoi_writeNat {n : ℕ} (hn : n < 2 ^ 31) : stoi (writeNat n) = some (n : ℤ) := by
  simp only [stoi, dropWhile_writeNat, readSign_writeNat, (digits_writeNat n).takeWhile_self, digitsValue_writeNat,
    if_neg (by decide : ¬false = true)]
  rw [if_neg]
  rintro (h | h | h)
  · exact writeNat_ne_nil n h
  · omega
  · omega

lemma stod_writeNat {n : ℕ} (hn : n < 2 ^ 31) : stod (writeNat n) = some (n : ℚ) := by
  have hlt : (n : ℚ) < 2 ^ 31 := by exact_mod_cast hn
  simp only [stod, dropWhile_writeNat, readSign_writeNat, (digits_writeNat n).takeWhile_self,
    (digits_writeNat n).dropWhile_self, readFraction, readExponent, List.append_nil, digitsValue_writeNat,
    List.length_nil, Option.getD_some, Nat.cast_zero, sub_zero, zpow_zero, mul_one,
    if_neg (by decide : ¬false = true)]
  rw [if_neg]
  rintro (h | h | ⟨hpos, h⟩)
  · exact writeNat_ne_nil n h
  · have hpow : (2 : ℚ) ^ 1024 = 2 ^ 970 * 2 ^ 54 := pow_add 2 970 54
    have hone : (1 : ℚ) ≤ 2 ^ 970 := one_le_pow₀ one_le_two
    rw [hpow] at h
    generalize (2 : ℚ) ^ 970 = x at h hone
    linarith
  · have hone : (1 : ℚ) ≤ n := by exact_mod_cast hpos
    have hle : (2 : ℚ) ^ (-1022 : ℤ) ≤ 1 := zpow_le_one_of_nonpos₀ one_le_two (by decide)
    exact absurd (hone.trans_lt h) (not_lt.mpr hle)

end Numbers

end Library.TextStream
