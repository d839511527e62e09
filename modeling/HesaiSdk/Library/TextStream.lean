import Mathlib.Data.Nat.Digits.Defs
import Mathlib.Data.Rat.Defs
import Mathlib.Tactic.Lemma

/-! Reading from a C++ string stream: lines, and numbers in the default locale. -/

namespace Library.TextStream

/-- What `getline` gives until it fails: nothing behind a delimiter at the end. -/
def getlines (delimiter : Char) : List Char → List (List Char)
  | [] => []
  | c :: s =>
    if c = delimiter then [] :: getlines delimiter s
    else match getlines delimiter s with
      | [] => [[c]]
      | line :: lines => (c :: line) :: lines

/-- What a string holds after `n + 1` calls of `getline` on a line that is not empty: behind a last delimiter it is
cleared once more, and else it stays as it is. -/
def nthGetline (delimiter : Char) (s : List Char) (n : ℕ) : List Char :=
  let lines := getlines delimiter s
  if n < lines.length then lines.getD n []
  else if s.getLast? = some delimiter then []
  else lines.getLastD []

def isSpace (c : Char) : Bool := c = ' ' ∨ '\t' ≤ c ∧ c ≤ '\r'

def digitsValue (s : List Char) : ℕ := Nat.ofDigits 10 (s.reverse.map fun c => c.toNat - '0'.toNat)

def readSign : List Char → Bool × List Char
  | '-' :: s => (true, s)
  | '+' :: s => (false, s)
  | s => (false, s)

/-- `>>` to an `int`. An empty stream leaves the variable, text that is no number sets it to 0. -/
def readInt (s : List Char) : Option ℤ :=
  match s.dropWhile isSpace with
  | [] => none
  | c :: s =>
    let sign := readSign (c :: s)
    let value : ℤ := digitsValue (sign.2.takeWhile Char.isDigit)
    some (if sign.1 then max (-2 ^ 31) (-value) else min (2 ^ 31 - 1) value)

def readExponent : List Char → Option ℤ
  | c :: s =>
    if c = 'e' ∨ c = 'E' then
      let sign := readSign s
      let digits := sign.2.takeWhile Char.isDigit
      if digits = [] then none else some (if sign.1 then -(digitsValue digits : ℤ) else digitsValue digits)
    else some 0
  | [] => some 0

def readFraction : List Char → List Char × List Char
  | '.' :: s => (s.takeWhile Char.isDigit, s.dropWhile Char.isDigit)
  | s => ([], s)

/-- `>>` to a `float`, like `readInt`. -/
def readFloat (s : List Char) : Option ℚ :=
  match s.dropWhile isSpace with
  | [] => none
  | c :: s =>
    let sign := readSign (c :: s)
    let whole := sign.2.takeWhile Char.isDigit
    let fraction := readFraction (sign.2.dropWhile Char.isDigit)
    let mantissa : ℚ := digitsValue (whole ++ fraction.1)
    if whole ++ fraction.1 = [] then some 0
    else match readExponent fraction.2 with
      | none => some 0
      | some exponent =>
        some ((if sign.1 then -mantissa else mantissa) * 10 ^ (exponent - fraction.1.length))

/-- `std::stof` on decimal text; none where it throws, without a number or with one that no `float` is close to. -/
def stof (s : List Char) : Option ℚ :=
  let sign := readSign (s.dropWhile isSpace)
  let whole := sign.2.takeWhile Char.isDigit
  let fraction := readFraction (sign.2.dropWhile Char.isDigit)
  let mantissa : ℚ := digitsValue (whole ++ fraction.1)
  let value := mantissa * 10 ^ ((readExponent fraction.2).getD 0 - fraction.1.length)
  if whole ++ fraction.1 = [] ∨ 2 ^ 128 - 2 ^ 103 ≤ value ∨ 0 < value ∧ value < 2 ^ (-126 : ℤ) then none
  else some (if sign.1 then -value else value)

/-- `std::stod`, like `stof` with the range of `double`. -/
def stod (s : List Char) : Option ℚ :=
  let sign := readSign (s.dropWhile isSpace)
  let whole := sign.2.takeWhile Char.isDigit
  let fraction := readFraction (sign.2.dropWhile Char.isDigit)
  let mantissa : ℚ := digitsValue (whole ++ fraction.1)
  let value := mantissa * 10 ^ ((readExponent fraction.2).getD 0 - fraction.1.length)
  if whole ++ fraction.1 = [] ∨ 2 ^ 1024 - 2 ^ 970 ≤ value ∨ 0 < value ∧ value < 2 ^ (-1022 : ℤ) then none
  else some (if sign.1 then -value else value)

/-- `std::stoi`; none where it throws, without a digit or outside of `int`. -/
def stoi (s : List Char) : Option ℤ :=
  let sign := readSign (s.dropWhile isSpace)
  let digits := sign.2.takeWhile Char.isDigit
  let value : ℤ := if sign.1 then -(digitsValue digits : ℤ) else digitsValue digits
  if digits = [] ∨ value < -2 ^ 31 ∨ 2 ^ 31 ≤ value then none else some value

example : getlines ',' ['1', ',', ',', '2', ','] = [['1'], [], ['2']] := by decide

example : nthGetline ',' ['1', ',', '2'] 2 = ['2'] ∧ nthGetline ',' ['1', ','] 1 = [] := by decide

end Library.TextStream
