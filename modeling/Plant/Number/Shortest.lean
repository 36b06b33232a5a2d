import Plant.Number.Binary64
import Plant.Number.Decimal

/-!
# Shortest decimals

The text of a finite floating-point number with the fewest digits that read back as the number, and
of those the nearest to it. It is positional from `10^-5` to below `10^16` and has an exponent
beyond.
-/
namespace Plant.Number

/-- Tells whether `d * 10^p` rounds to the magnitude. -/
def readsBack (magnitude d : Nat) (p : Int) : Bool :=
  match p with
  | .ofNat k => Binary64.nearest (d * Nat.pow 10 k) 1 == magnitude
  | .negSucc k => Binary64.nearest d (Nat.pow 10 (k + 1)) == magnitude

/-- Tells whether `10^k ≤ n / d`. -/
def powerFits (n d : Nat) : Int → Bool
  | .ofNat i => d * Nat.pow 10 i ≤ n
  | .negSucc i => d ≤ n * Nat.pow 10 (i + 1)

/-- The greatest `k` with `10^k ≤ n / d`, searched for from `k` upwards in `steps` steps. -/
def floorLogTen (n d : Nat) : Nat → Int → Int
  | 0, k => k
  | steps + 1, k => if powerFits n d (k + 1) then floorLogTen n d steps (k + 1) else k

/-- `(n / d) / 10^p` rounded down, and whether it is nearer to the next number or, half way between
the two, is odd. -/
def gridBelow (n d : Nat) (p : Int) : Nat × Bool :=
  let (n, d) := match p with
    | .ofNat k => (n, d * Nat.pow 10 k)
    | .negSucc k => (n * Nat.pow 10 (k + 1), d)
  let q := n / d
  let r := n % d
  (q, d < 2 * r ∨ (2 * r = d ∧ q % 2 = 1))

/-- A number of at most `digits + 1` digits that reads back as the magnitude, nearest to it among
those on the grid of `10^p`, if the grid has one; or else on finer grids. -/
def shortestFrom (magnitude n d : Nat) : Nat → Int → Nat × Int
  | 0, p => ((gridBelow n d p).1, p)
  | digits + 1, p =>
    let (q, up) := gridBelow n d p
    let near := if up then q + 1 else q
    let far := if up then q else q + 1
    if readsBack magnitude near p then (near, p)
    else if readsBack magnitude far p then (far, p)
    else shortestFrom magnitude n d digits (p - 1)

/-- The text `d * 10^p`, where the last digit of `d` is not zero unless `d` is. -/
def layout (d : Nat) (p : Int) : List Char :=
  let ds := Nat.toDigits 10 d
  let top := p + ds.length - 1
  if -5 ≤ top ∧ top ≤ 15 then
    if 0 ≤ p then ds ++ List.replicate p.toNat '0' ++ ['.', '0']
    else if 0 ≤ top then ds.take (top.toNat + 1) ++ '.' :: ds.drop (top.toNat + 1)
    else ['0', '.'] ++ List.replicate (-top - 1).toNat '0' ++ ds
  else
    let mantissa := match ds with
      | c :: e :: cs => c :: '.' :: e :: cs
      | cs => cs
    let sign := if 0 ≤ top then '+' else '-'
    mantissa ++ ['e', sign] ++ Nat.toDigits 10 top.natAbs

/-- `d * 10^p` without the zeros at the end of `d`, of which there are at most `steps`. -/
def dropZeros : Nat → Nat → Int → Nat × Int
  | 0, d, p => (d, p)
  | steps + 1, d, p => if d % 10 = 0 then dropZeros steps (d / 10) (p + 1) else (d, p)

/-- The shortest text of a finite number. -/
def shortest (x : Binary64) : String :=
  let sign := if x.isNegative then ['-'] else []
  if x.magnitude = 0 then String.ofList (sign ++ ['0', '.', '0'])
  else
    let (n, d) := Binary64.fraction x.magnitude
    let (digits, p) := shortestFrom x.magnitude n d 17 (floorLogTen n d 640 (-330))
    let (digits, p) := dropZeros 20 digits p
    String.ofList (sign ++ layout digits p)

end Plant.Number
