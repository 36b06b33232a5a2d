/-!
# Binary floating-point numbers

The 64-bit numbers of IEEE 754: a sign, an exponent of 11 bits and a fraction of 52. Their values
are exact fractions here, and a product or quotient is the exact one rounded once, to the nearest
number, a tie to the even one. Equality of numbers (`==`) is that of their values: the two zeros
are equal, and a NaN is equal to nothing.
-/
namespace Plant.Number

/-- A 64-bit floating-point number by its bits. -/
structure Binary64 where
  bits : UInt64
deriving Repr, Inhabited

namespace Binary64

/-- The bits without the sign. -/
def magnitude (x : Binary64) : Nat := x.bits.toNat % Nat.pow 2 63

/-- The magnitude of the infinities; that of a NaN is greater. -/
def infinity : Nat := 2047 * Nat.pow 2 52

/-- Tells whether the number is a NaN. -/
def isNaN (x : Binary64) : Bool := infinity < x.magnitude

/-- Tells whether the sign is a minus; a zero has a sign, too. -/
def isNegative (x : Binary64) : Bool := Nat.pow 2 63 ≤ x.bits.toNat

/-- Numbers are equal if their values are. -/
instance : BEq Binary64 where
  beq x y := !x.isNaN && !y.isNaN && (x.bits == y.bits || (x.magnitude == 0 && y.magnitude == 0))

/-- The number with the given sign and magnitude. -/
def ofMagnitude (negative : Bool) (magnitude : Nat) : Binary64 :=
  ⟨UInt64.ofNat (if negative then Nat.pow 2 63 + magnitude else magnitude)⟩

/-- The significand of a finite magnitude: its fraction, with the hidden bit unless subnormal. -/
def significand (magnitude : Nat) : Nat :=
  if magnitude < Nat.pow 2 52 then magnitude else magnitude % Nat.pow 2 52 + Nat.pow 2 52

/-- The exponent of a finite magnitude: its value is the significand times two to this power. -/
def exponent (magnitude : Nat) : Int :=
  if magnitude < Nat.pow 2 52 then -1074 else (magnitude / Nat.pow 2 52 : Nat) - 1075

/-- `n / d` rounded to the nearest natural number, a tie to the even one. -/
def divRound (n d : Nat) : Nat :=
  let q := n / d
  let r := n % d
  if 2 * r < d ∨ (2 * r = d ∧ q % 2 = 0) then q else q + 1

/-- The greatest `k` with `2^k ≤ n / d`, for positive `n` and `d`. -/
def floorLog (n d : Nat) : Int :=
  let k : Int := (Nat.log2 n : Int) - Nat.log2 d
  let reached : Bool := match k with
    | .ofNat i => d * Nat.pow 2 i ≤ n
    | .negSucc i => d ≤ n * Nat.pow 2 (i + 1)
  if reached then k else k - 1

/-- The magnitude nearest to `n / d`; at least `infinity` if that is beyond the finite ones. The
last finite exponent and the next one need no case of their own: the significand `2^53` carries. -/
def nearest (n d : Nat) : Nat :=
  if n = 0 then 0
  else
    let e : Int := max (floorLog n d - 52) (-1074)
    let m := match e with
      | .ofNat i => divRound n (d * Nat.pow 2 i)
      | .negSucc i => divRound (n * Nat.pow 2 (i + 1)) d
    (e + 1074).toNat * Nat.pow 2 52 + m

/-- The value of a finite magnitude as a fraction. -/
def fraction (magnitude : Nat) : Nat × Nat :=
  match exponent magnitude with
  | .ofNat i => (significand magnitude * Nat.pow 2 i, 1)
  | .negSucc i => (significand magnitude, Nat.pow 2 (i + 1))

/-- The product of two finite magnitudes. -/
def mul (x y : Nat) : Nat :=
  nearest ((fraction x).1 * (fraction y).1) ((fraction x).2 * (fraction y).2)

/-- The quotient of two finite magnitudes; the second is not zero. -/
def div (x y : Nat) : Nat :=
  nearest ((fraction x).1 * (fraction y).2) ((fraction x).2 * (fraction y).1)

/-- The number nearest to an integer. -/
def ofInt (i : Int) : Binary64 := ofMagnitude (i < 0) (nearest i.natAbs 1)

end Binary64

end Plant.Number
