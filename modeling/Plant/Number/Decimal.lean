/-!
# Decimal text of whole numbers

Writing a number in base ten without leading zeros, and reading one where leading zeros and a plus
sign are allowed.
-/
namespace Plant.Number

/-- The decimal text of a natural number, without leading zeros. -/
def decimal (n : Nat) : String := String.ofList (Nat.toDigits 10 n)

/-- The decimal text of an integer: a negative one has a minus sign. -/
def decimalInt : Int → String
  | .ofNat n => decimal n
  | .negSucc n => "-" ++ decimal (n + 1)

/-- The number that decimal digits stand for. -/
def ofDigits (ds : List Char) : Nat := Nat.ofDigitChars 10 ds 0

/-- The number that a text of one or more digits stands for. -/
def natural? (cs : List Char) : Option Nat :=
  if cs ≠ [] ∧ cs.all Char.isDigit then some (ofDigits cs) else none

/-- The text without a plus sign in front. -/
def dropPlus : List Char → List Char
  | '+' :: cs => cs
  | cs => cs

/-- The 64-bit number that a text of digits, with or without a plus sign, stands for. -/
def word64? (s : String) : Option UInt64 :=
  (natural? (dropPlus s.toList)).bind fun n =>
    if n < UInt64.size then some (UInt64.ofNat n) else none

end Plant.Number
