/-!
Binary floating point with 53 significant bits, kept as an exact sign, significand and exponent.
Every conversion into it goes through `Binary64.ofRatio`, which rounds a ratio of naturals once, to
the nearest value, a tie to the even significand.
-/
namespace ScanLauncher

/-- A power of two. -/
def powerOfTwo (k : Nat) : Nat := Nat.pow 2 k

/-- A power of ten. -/
def powerOfTen (k : Nat) : Nat := Nat.pow 10 k

/-- A double: not a number, an infinity, or `± significand · 2 ^ exponent`. -/
inductive Binary64 where
  | nan
  | infinity (negative : Bool)
  | finite (negative : Bool) (significand : Nat) (exponent : Int)
deriving DecidableEq, Repr

namespace Binary64

/-- The exponent of the finest grid. -/
def leastExponent : Int := -1074

/-- The exponent of the coarsest grid. -/
def greatestExponent : Int := 971

/-- Zero, with its sign. -/
def zero (negative : Bool) : Binary64 := .finite negative 0 leastExponent

instance : Inhabited Binary64 := ⟨zero false⟩

/-- The quotient of two naturals, rounded to the nearest, a tie to the even one. -/
def roundDiv (num den : Nat) : Nat :=
  let quotient := num / den
  let twice := 2 * (num % den)
  if twice < den || (twice == den && quotient % 2 == 0) then quotient else quotient + 1

/-- The greatest `k` with `2 ^ k ≤ num / den`, for positive `num` and `den`. -/
def floorLog (num den : Nat) : Int :=
  let k : Int := (num.log2 : Int) - den.log2
  if num * powerOfTwo (-k).toNat < den * powerOfTwo k.toNat then k - 1 else k

/-- `num / den`, rounded to the nearest double; beyond the greatest double it is infinite. -/
def ofRatio (negative : Bool) (num den : Nat) : Binary64 :=
  if num == 0 then zero negative
  else
    let grid := max (floorLog num den - 52) leastExponent
    let significand := roundDiv (num * powerOfTwo (-grid).toNat) (den * powerOfTwo grid.toNat)
    let (significand, grid) :=
      if significand == powerOfTwo 53 then (powerOfTwo 52, grid + 1) else (significand, grid)
    if grid > greatestExponent then .infinity negative else .finite negative significand grid

/-- `digits · 10 ^ exponent`, rounded once. Exponents that leave the range of doubles are cut
short before any power is computed. -/
def ofDecimal (negative : Bool) (digits : Nat) (exponent : Int) : Binary64 :=
  let count : Int := (Nat.toDigits 10 digits).length
  if digits == 0 || count + exponent < -330 then zero negative
  else if count + exponent > 310 then .infinity negative
  else ofRatio negative (digits * powerOfTen exponent.toNat) (powerOfTen (-exponent).toNat)

/-- An integer, rounded once. -/
def ofInt (n : Int) : Binary64 := ofRatio (n < 0) n.natAbs 1

/-- The magnitude of a finite double as a ratio of naturals. -/
def ratio (significand : Nat) (exponent : Int) : Nat × Nat :=
  (significand * powerOfTwo exponent.toNat, powerOfTwo (-exponent).toNat)

/-- A finite double as a ratio with a signed numerator. -/
def signedRatio? : Binary64 → Option (Int × Nat)
  | finite negative significand exponent =>
    let (num, den) := ratio significand exponent
    some (if negative then -(num : Int) else num, den)
  | _ => none

/-- The order of a double and an integer; none for a NaN. -/
def compareInt? (x : Binary64) (n : Int) : Option Ordering :=
  match x with
  | nan => none
  | infinity negative => some (if negative then .lt else .gt)
  | x => x.signedRatio?.map fun (num, den) => compare num (n * den)

/-- The order of two doubles; none if either is a NaN. Both zeros are equal. -/
def compare? (x y : Binary64) : Option Ordering :=
  match x, y with
  | nan, _ | _, nan => none
  | infinity true, infinity true | infinity false, infinity false => some .eq
  | infinity negative, _ => some (if negative then .lt else .gt)
  | _, infinity negative => some (if negative then .gt else .lt)
  | x, y =>
    match x.signedRatio?, y.signedRatio? with
    | some (a, b), some (c, d) => some (compare (a * d) (c * b))
    | _, _ => none

/-- Whether the double is zero of either sign. -/
def isZero : Binary64 → Bool
  | finite _ significand _ => significand == 0
  | _ => false

/-- Whether the double is below zero; a NaN and both zeros are not. -/
def isNegative (x : Binary64) : Bool := x.compareInt? 0 == some .lt

/-- Whether the double is above zero; a NaN and both zeros are not. -/
def isPositive (x : Binary64) : Bool := x.compareInt? 0 == some .gt

/-- The integer part of a finite double. -/
def truncate? (x : Binary64) : Option Int :=
  x.signedRatio?.map fun (num, den) => num.tdiv den

/-- The double with the opposite sign. -/
def neg : Binary64 → Binary64
  | nan => nan
  | infinity negative => infinity (!negative)
  | finite negative significand exponent => finite (!negative) significand exponent

/-- A ratio with a signed numerator, rounded once; an exact zero takes the sign given. -/
def ofSignedRatio (zeroSign : Bool) (num : Int) (den : Nat) : Binary64 :=
  if num == 0 then zero zeroSign else ofRatio (num < 0) num.natAbs den

/-- The sum of two doubles. -/
def add (x y : Binary64) : Binary64 :=
  match x, y with
  | nan, _ | _, nan => nan
  | infinity a, infinity b => if a == b then infinity a else nan
  | infinity a, _ | _, infinity a => infinity a
  | finite a m e, finite b n f =>
    match (finite a m e).signedRatio?, (finite b n f).signedRatio? with
    | some (p, q), some (r, s) => ofSignedRatio (a && b) (p * s + r * q) (q * s)
    | _, _ => nan

/-- The product of two doubles. -/
def mul (x y : Binary64) : Binary64 :=
  match x, y with
  | nan, _ | _, nan => nan
  | infinity a, infinity b => infinity (a != b)
  | infinity a, finite b n _ | finite b n _, infinity a => if n == 0 then nan else infinity (a != b)
  | finite a m e, finite b n f =>
    let (p, q) := ratio m e
    let (r, s) := ratio n f
    ofRatio (a != b) (p * r) (q * s)

end Binary64

end ScanLauncher
