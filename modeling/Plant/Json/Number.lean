import Plant.Json.Space

/-!
# Numbers in documents

A number without fraction and exponent is an integer if 64 bits hold it, with a sign if it has one;
any other is a floating-point number. The number `-0` is one, too.

A floating-point number is made from its first digits, as many as stay below `2^64`, scaled by one
multiplication or by divisions with a power of ten, each rounded. So its last bit may differ from
that of the nearest number. One that is beyond the finite ones is malformed.
-/
namespace Plant.Json

open Plant.Number

/-- A number of a document. -/
inductive Numeric where
  | integer (i : Int)
  | real (x : Binary64)

/-- The number as a floating-point number. -/
def Numeric.toReal : Numeric → Binary64
  | integer i => .ofInt i
  | real x => x

/-- The number as it is named in a message. -/
def Numeric.found : Numeric → Found
  | integer i => .integer i
  | real x => .real x

/-- The value of a decimal digit. -/
def digit (c : Char) : Nat := c.toNat - '0'.toNat

/-- Takes digits into the significand while it stays below `2^64`: the significand, the number of
digits that were taken, and what is left. -/
def takeSignificand (significand taken : Nat) : List Char → Nat × Nat × List Char
  | [] => (significand, taken, [])
  | c :: cs =>
    if c.isDigit ∧ significand * 10 + digit c < UInt64.size then
      takeSignificand (significand * 10 + digit c) (taken + 1) cs
    else (significand, taken, c :: cs)

/-- The magnitude nearest to a power of ten. -/
def powerOfTen (k : Nat) : Nat := Binary64.nearest (Nat.pow 10 k) 1

/-- The magnitude of `significand * 10^exponent`, which has to be finite. A divisor is at most
`10^308`; two such divisions leave nothing of a significand, so no more than that are made. -/
def scale (significand : Nat) (exponent : Int) : Except Fault Nat :=
  let f := Binary64.nearest significand 1
  match exponent with
  | .ofNat k =>
    if significand = 0 then .ok 0
    else if 308 < k then .error .malformed
    else
      let product := Binary64.mul f (powerOfTen k)
      if product < Binary64.infinity then .ok product else .error .malformed
  | .negSucc k =>
    let k := k + 1
    if k ≤ 308 then .ok (Binary64.div f (powerOfTen k))
    else if k ≤ 616 then
      .ok (Binary64.div (Binary64.div f (powerOfTen 308)) (powerOfTen (k - 308)))
    else .ok 0

/-- The number made of its parts. -/
def makeReal (negative : Bool) (significand : Nat) (exponent : Int) : Except Fault Numeric :=
  (scale significand exponent).map fun m => .real (.ofMagnitude negative m)

/-- The integer made of its parts, or the floating-point number if it has no 64 bits. -/
def makeInteger (negative : Bool) (significand : Nat) : Numeric :=
  if negative then
    if 0 < significand ∧ significand ≤ Nat.pow 2 63 then .integer (-significand)
    else .real (.ofMagnitude true (Binary64.nearest significand 1))
  else .integer significand

/-- Takes the sign of an exponent off the front: whether it is a minus, and what is left. -/
def takeExponentSign : List Char → Bool × List Char
  | '+' :: cs => (false, cs)
  | '-' :: cs => (true, cs)
  | cs => (false, cs)

/-- Reads an exponent after its mark. -/
def readExponent (cs : List Char) : Except Fault (Int × List Char) :=
  let (negative, cs) := takeExponentSign cs
  match cs with
  | [] => .error .unfinished
  | c :: _ =>
    if c.isDigit then
      let e : Int := ofDigits (cs.takeWhile Char.isDigit)
      .ok (if negative then -e else e, cs.dropWhile Char.isDigit)
    else .error .malformed

/-- Reads the exponent of a number, if it has one, and makes the number. -/
def readScaled (negative : Bool) (significand : Nat) (exponent : Int) (cs : List Char) :
    Except Fault (Numeric × List Char) :=
  match cs with
  | c :: rest =>
    if c = 'e' ∨ c = 'E' then do
      let (e, rest) ← readExponent rest
      let x ← makeReal negative significand (exponent + e)
      .ok (x, rest)
    else do
      let x ← makeReal negative significand exponent
      .ok (x, cs)
  | [] => do
    let x ← makeReal negative significand exponent
    .ok (x, cs)

/-- Reads a number after its point. -/
def readFraction (negative : Bool) (significand : Nat) (exponent : Int) (cs : List Char) :
    Except Fault (Numeric × List Char) :=
  match cs with
  | [] => .error .unfinished
  | c :: _ =>
    if c.isDigit then
      let (significand, taken, cs) := takeSignificand significand 0 cs
      readScaled negative significand (exponent - taken) (cs.dropWhile Char.isDigit)
    else .error .malformed

/-- Reads a number after the digits of its whole part, of which `dropped` digits are not in the
significand. -/
def readTail (negative : Bool) (significand dropped : Nat) (cs : List Char) :
    Except Fault (Numeric × List Char) :=
  match cs with
  | '.' :: cs => readFraction negative significand dropped cs
  | 'e' :: _ => readScaled negative significand dropped cs
  | 'E' :: _ => readScaled negative significand dropped cs
  | cs =>
    if dropped = 0 then .ok (makeInteger negative significand, cs)
    else readScaled negative significand dropped cs

/-- Tells whether the first character is a digit. -/
def startsWithDigit : List Char → Bool
  | [] => false
  | c :: _ => c.isDigit

/-- Reads a number without its sign. -/
def readUnsigned (negative : Bool) (cs : List Char) : Except Fault (Numeric × List Char) :=
  match cs with
  | [] => .error .unfinished
  | c :: rest =>
    if !c.isDigit then .error .malformed
    else if c = '0' then
      if startsWithDigit rest then .error .malformed else readTail negative 0 0 rest
    else
      let (significand, _, rest) := takeSignificand (digit c) 1 rest
      readTail negative significand (rest.takeWhile Char.isDigit).length
        (rest.dropWhile Char.isDigit)

/-- Reads a number. -/
def readNumber (cs : List Char) : Except Fault (Numeric × List Char) :=
  match cs with
  | '-' :: cs => readUnsigned true cs
  | cs => readUnsigned false cs

/-! ## Skipping

A number that nobody asked for may be of any size. One that ends too early is malformed. -/

/-- Skips one or more digits. -/
def skipDigits (cs : List Char) : Except Fault (List Char) :=
  if startsWithDigit cs then .ok (cs.dropWhile Char.isDigit) else .error .malformed

/-- Skips the exponent of a number, if it has one. -/
def skipExponent : List Char → Except Fault (List Char)
  | 'e' :: cs => skipDigits (takeExponentSign cs).2
  | 'E' :: cs => skipDigits (takeExponentSign cs).2
  | cs => .ok cs

/-- Skips the fraction and the exponent of a number, if it has them. -/
def skipTail : List Char → Except Fault (List Char)
  | '.' :: cs => do skipExponent (← skipDigits cs)
  | cs => skipExponent cs

/-- Skips a number without its sign. -/
def skipUnsigned : List Char → Except Fault (List Char)
  | '0' :: cs => if startsWithDigit cs then .error .malformed else skipTail cs
  | cs => do skipTail (← skipDigits cs)

/-- Skips a number. -/
def skipNumber : List Char → Except Fault (List Char)
  | '-' :: cs => skipUnsigned cs
  | cs => skipUnsigned cs

end Plant.Json
