import Plant.Number.Decimal

/-!
# Numerals

A numeral is a sign or none, digits with or without a point among, before or after them, and an
exponent or none. It is finite if its value, rounded to the nearest 64-bit floating-point number,
is: that is, if its magnitude is less than `2^1024 - 2^970`, half a step beyond the largest one.
-/
namespace Plant.Number

/-- The exponent of a numeral: its mark, its sign and its digits. -/
structure Exponent where
  mark : Char
  sign : Option Char
  digits : List Char
deriving DecidableEq, Repr

/-- A numeral by its parts; `fraction` is there if there is a point. -/
structure Numeral where
  sign : Option Char
  whole : List Char
  fraction : Option (List Char)
  exponent : Option Exponent
deriving DecidableEq, Repr

namespace Numeral

/-- Takes a sign off the front of a text. -/
def takeSign : List Char → Option Char × List Char
  | '+' :: cs => (some '+', cs)
  | '-' :: cs => (some '-', cs)
  | cs => (none, cs)

/-- Takes the digits off the front of a text. -/
def takeDigits (cs : List Char) : List Char × List Char :=
  (cs.takeWhile Char.isDigit, cs.dropWhile Char.isDigit)

/-- Takes a point and the digits after it off the front of a text. -/
def takeFraction : List Char → Option (List Char) × List Char
  | '.' :: cs => (some (takeDigits cs).1, (takeDigits cs).2)
  | cs => (none, cs)

/-- Reads a whole text as an exponent: nothing, or a mark, a sign or none, and one or more digits. -/
def exponent? : List Char → Option (Option Exponent)
  | [] => some none
  | c :: cs =>
    let (sign, rest) := takeSign cs
    if (c = 'e' ∨ c = 'E') ∧ rest ≠ [] ∧ rest.all Char.isDigit then some (some ⟨c, sign, rest⟩)
    else none

/-- Reads a whole text as a numeral; there has to be a digit before or after the point. -/
def read? (cs : List Char) : Option Numeral :=
  let (sign, cs) := takeSign cs
  let (whole, cs) := takeDigits cs
  let (fraction, cs) := takeFraction cs
  if whole = [] ∧ fraction.getD [] = [] then none
  else (exponent? cs).map fun exponent => ⟨sign, whole, fraction, exponent⟩

/-- The characters of the exponent. -/
def exponentText : Option Exponent → List Char
  | none => []
  | some e => e.mark :: e.sign.toList ++ e.digits

/-- The characters of the numeral. -/
def text (n : Numeral) : List Char :=
  n.sign.toList ++ n.whole ++ (n.fraction.elim [] ('.' :: ·)) ++ exponentText n.exponent

/-- The value of the exponent. -/
def exponentValue : Option Exponent → Int
  | none => 0
  | some e => if e.sign = some '-' then -(ofDigits e.digits : Int) else ofDigits e.digits

/-- The digits before and after the point. -/
def digits (n : Numeral) : List Char := n.whole ++ n.fraction.getD []

/-- The power of ten by which the number of all digits is to be multiplied. -/
def power (n : Numeral) : Int := exponentValue n.exponent - (n.fraction.getD []).length

/-- The bound of the magnitudes that round to a finite number. -/
def bound : Nat := Nat.pow 2 1024 - Nat.pow 2 970

/-- Tells whether `m * 10^p` is less than the bound. -/
def below (m : Nat) (p : Int) : Bool :=
  match p with
  | .ofNat k => m * Nat.pow 10 k < bound
  | .negSucc k => m < bound * Nat.pow 10 (k + 1)

/-- Tells whether the numeral's value rounds to a finite number. The position of its first digit
that is not zero decides all but the values between `10^308` and `10^310`. -/
def isFinite (n : Numeral) : Bool :=
  let significant := n.digits.dropWhile (· == '0')
  let top : Int := significant.length + n.power
  if significant = [] ∨ top ≤ 308 then true
  else if 310 < top then false
  else below (ofDigits significant) n.power

end Numeral

/-- Tells whether the text is a numeral with a finite value. -/
def isFiniteNumeral (s : String) : Bool := (Numeral.read? s.toList).any Numeral.isFinite

end Plant.Number
