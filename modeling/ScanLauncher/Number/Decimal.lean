import ScanLauncher.Number.Binary64
import ScanLauncher.Text.Digit

/-!
Doubles in decimal: the fewest digits that read back as the same double, and a fixed number of
significant digits. Where digits turn into text, a `Layout` says which exponents are written out.
-/
namespace ScanLauncher.Decimal

/-- `0.d₁d₂…dₙ · 10 ^ point`, with `digits` the number `d₁d₂…dₙ` of `count` digits. -/
structure Digits where
  digits : Nat
  count : Nat
  point : Int
deriving DecidableEq, Repr

/-- The number of decimal digits of a natural; zero has one. -/
def digitCount (n : Nat) : Nat := (Nat.toDigits 10 n).length

/-- The least `p` with `num / den < 10 ^ p`, for positive `num` and `den`. -/
def pointOf (num den : Nat) : Int :=
  let guess : Int := (digitCount num : Int) - digitCount den
  if num * powerOfTen (-guess).toNat < den * powerOfTen guess.toNat then guess else guess + 1

/-- The open or closed interval of ratios that round to one double: numerators `low` and `high` over
`den`, both ends belonging to it if `closed`. -/
structure Interval where
  low : Nat
  high : Nat
  den : Nat
  closed : Bool

/-- The interval of `significand · 2 ^ exponent`: half a step to each side, where the step below a
power of two is half the step above it. -/
def interval (significand : Nat) (exponent : Int) : Interval :=
  let narrow := significand == powerOfTwo 52 && exponent > Binary64.leastExponent
  let up := powerOfTwo exponent.toNat
  let down := powerOfTwo (-exponent).toNat
  { low := (4 * significand - (if narrow then 1 else 2)) * up
    high := (4 * significand + 2) * up
    den := 4 * down
    closed := significand % 2 == 0 }

/-- Whether `n · 10 ^ grid` lies in the interval. -/
def Interval.contains (i : Interval) (n : Nat) (grid : Int) : Bool :=
  let x := n * powerOfTen grid.toNat * i.den
  let scale := powerOfTen (-grid).toNat
  let low := i.low * scale
  let high := i.high * scale
  if i.closed then low ≤ x && x ≤ high else low < x && x < high

/-- The neighbour of `num / den` on the grid `10 ^ grid` that lies in the interval; the nearer one
if both do. -/
def neighbour? (i : Interval) (num den : Nat) (grid : Int) : Option Nat :=
  let a := num * powerOfTen (-grid).toNat
  let b := den * powerOfTen grid.toNat
  let below := a / b
  let twice := 2 * (a % b)
  match i.contains below grid, i.contains (below + 1) grid with
  | true, true =>
    some (if twice < b || (twice == b && below % 2 == 0) then below else below + 1)
  | true, false => some below
  | false, true => some (below + 1)
  | false, false => none

/-- The first digit count, from `count` on, whose grid has a neighbour in the interval. -/
def shortestFrom (i : Interval) (num den : Nat) (point : Int) : (fuel count : Nat) → Nat × Int
  | 0, count =>
    (num * powerOfTen (-(point - count)).toNat / (den * powerOfTen (point - count).toNat),
      point - count)
  | fuel + 1, count =>
    match neighbour? i num den (point - count) with
    | some n => (n, point - count)
    | none => shortestFrom i num den point fuel (count + 1)

/-- Drops the zeros at the end of a digit string. -/
def dropZeros : (fuel n count : Nat) → Nat × Nat
  | 0, n, count => (n, count)
  | fuel + 1, n, count =>
    if n % 10 == 0 && count > 1 then dropZeros fuel (n / 10) (count - 1) else (n, count)

/-- `n · 10 ^ grid` as digits without zeros at the end. -/
def ofGrid (n : Nat) (grid : Int) : Digits :=
  let count := digitCount n
  let point := grid + count
  let (digits, count) := dropZeros count n count
  { digits, count, point }

/-- The fewest digits that read back as `significand · 2 ^ exponent`; of those, the nearest. -/
def shortest (significand : Nat) (exponent : Int) : Digits :=
  let (num, den) := Binary64.ratio significand exponent
  let i := interval significand exponent
  let (n, grid) := shortestFrom i num den (pointOf num den) 17 1
  ofGrid n grid

/-- A positive ratio, rounded to `count` significant digits, a tie to the even one. -/
def significant (count : Nat) (num den : Nat) : Digits :=
  let grid := pointOf num den - count
  ofGrid (Binary64.roundDiv (num * powerOfTen (-grid).toNat) (den * powerOfTen grid.toNat)) grid

/-- How digits become text: decimal exponents from `least` up to, but not including, `bound` are
written positionally, all others with an exponent; `fraction` keeps a fraction on whole numbers. -/
structure Layout where
  least : Int
  bound : Int
  fraction : Bool

/-- The exact text of a double: the exponent appears from `1e+16` on and below `0.0001`. -/
def exact : Layout := ⟨-4, 16, true⟩

/-- The short text of a double, of six significant digits: the exponent appears from `1e+06` on and
below `0.0001`. -/
def brief : Layout := ⟨-4, 6, false⟩

/-- An exponent: its sign and at least two digits. -/
def exponentText (e : Int) : String :=
  "e" ++ (if e < 0 then "-" else "+") ++ Text.zeroPadded 2 e.natAbs

/-- Digits under a layout. -/
def Layout.text (layout : Layout) (d : Digits) : String :=
  let chars := (Text.zeroPadded d.count d.digits).toList
  let e := d.point - 1
  if layout.least ≤ e && e < layout.bound then
    if d.point ≤ 0 then
      "0." ++ String.ofList (List.replicate (-d.point).toNat '0' ++ chars)
    else
      let whole := d.point.toNat
      if chars.length ≤ whole then
        String.ofList (chars ++ List.replicate (whole - chars.length) '0') ++
          (if layout.fraction then ".0" else "")
      else String.ofList (chars.take whole) ++ "." ++ String.ofList (chars.drop whole)
  else
    let tail := chars.drop 1
    String.ofList (chars.take 1) ++ (if tail.isEmpty then "" else "." ++ String.ofList tail) ++
      exponentText e

end ScanLauncher.Decimal

namespace ScanLauncher.Binary64

/-- A sign in front of a text. -/
def signed (negative : Bool) (s : String) : String := if negative then "-" ++ s else s

/-- The exact text of a double: its shortest digits, always with a fraction or an exponent. -/
def text : Binary64 → String
  | nan => "nan"
  | infinity negative => signed negative "inf"
  | finite negative significand exponent =>
    signed negative <|
      if significand == 0 then "0.0"
      else Decimal.exact.text (Decimal.shortest significand exponent)

/-- The short text of a double: six significant digits, without zeros at the end. -/
def briefText : Binary64 → String
  | nan => "nan"
  | infinity negative => signed negative "inf"
  | finite negative significand exponent =>
    signed negative <|
      if significand == 0 then "0"
      else
        let (num, den) := ratio significand exponent
        Decimal.brief.text (Decimal.significant 6 num den)

end ScanLauncher.Binary64
