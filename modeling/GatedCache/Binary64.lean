/-!
Binary floating point in 64 bits, kept as its word. Every operation is exact arithmetic on natural
numbers followed by one rounding, so that a statement about a value needs no machine arithmetic.
A finite value is `significand * 2 ^ exponent`, up to its sign.
-/
namespace GatedCache

structure Binary64 where
  bits : UInt64
  deriving DecidableEq, Inhabited

namespace Binary64

def infinityWord : Nat := 0x7FF0000000000000
def signWord : Nat := 0x8000000000000000

/-- The unit of the exponent in a word. -/
def exponentUnit : Nat := 0x10000000000000

/-- A power of two; a negative exponent counts as zero. -/
def twoPow (k : Int) : Nat := Nat.pow 2 k.toNat

/-- A power of ten; a negative exponent counts as zero. -/
def tenPow (k : Int) : Nat := Nat.pow 10 k.toNat

def magnitudeWord (x : Binary64) : Nat := x.bits.toNat % signWord

def isNegative (x : Binary64) : Bool := signWord ≤ x.bits.toNat
def isNaN (x : Binary64) : Bool := infinityWord < x.magnitudeWord
def isInfinite (x : Binary64) : Bool := x.magnitudeWord == infinityWord
def isFinite (x : Binary64) : Bool := x.magnitudeWord < infinityWord
def isZero (x : Binary64) : Bool := x.magnitudeWord == 0

/-- Greater than zero: neither a zero, nor negative, nor undefined. -/
def isPositive (x : Binary64) : Bool :=
  !x.isNegative && !x.isNaN && !x.isZero

def ofWord (n : Nat) : Binary64 := ⟨UInt64.ofNat n⟩

def infinity : Binary64 := ofWord infinityWord
def nan : Binary64 := ofWord 0x7FF8000000000000
def zero : Binary64 := ofWord 0

def withSign (negative : Bool) (x : Binary64) : Binary64 :=
  ofWord (if negative then x.magnitudeWord + signWord else x.magnitudeWord)

def significand (x : Binary64) : Nat :=
  let fraction := x.magnitudeWord % exponentUnit
  if x.magnitudeWord / exponentUnit = 0 then fraction else exponentUnit + fraction

def exponent (x : Binary64) : Int :=
  let e : Nat := x.magnitudeWord / exponentUnit
  if e = 0 then -1074 else Int.ofNat e - 1075

/-- A quotient rounded to the nearest integer; a half goes to the even neighbour. -/
def roundQuotient (n d : Nat) : Nat :=
  let q := n / d
  let r := n % d
  if 2 * r < d then q
  else if d < 2 * r then q + 1
  else if q % 2 = 0 then q else q + 1

/-- The largest `e` with `2 ^ e ≤ n / d`, for positive `n` and `d`. -/
def floorLog (n d : Nat) : Int :=
  let e : Int := (n.log2 : Int) - d.log2
  let below := if 0 ≤ e then n < d * twoPow e else n * twoPow (-e) < d
  if below then e - 1 else e

/-- The number nearest to a quotient of natural numbers; a half goes to the even neighbour, and
what lies beyond the largest finite number becomes infinity. -/
def ofRatio (n d : Nat) : Binary64 :=
  if n = 0 || d = 0 then zero
  else
    let q := max (floorLog n d - 52) (-1074)
    let m := if 0 ≤ q then roundQuotient n (d * twoPow q) else roundQuotient (n * twoPow (-q)) d
    ofWord (min ((q + 1074).toNat * exponentUnit + m) infinityWord)

def ofInt (i : Int) : Binary64 :=
  withSign (i < 0) (ofRatio i.natAbs 1)

def ofInt? (i : Int) : Option Binary64 :=
  if (ofInt i).isFinite then some (ofInt i) else none

/-- The number nearest to `digits * 10 ^ scale`. Scales that certainly end beyond the largest or
below the smallest positive number are settled without computing the power. -/
def ofDecimal (digits : Nat) (scale : Int) : Binary64 :=
  if digits = 0 then zero
  else if 310 < scale then infinity
  else if 0 ≤ scale then ofRatio (digits * tenPow scale) 1
  else if (digits.log2 : Int) + 1 + 3 * scale < -1080 then zero
  else ofRatio digits (tenPow (-scale))

def isIntegral (x : Binary64) : Bool :=
  0 ≤ x.exponent || x.significand % twoPow (-x.exponent) == 0

def truncate (x : Binary64) : Int :=
  let m : Nat :=
    if 0 ≤ x.exponent then x.significand * twoPow x.exponent
    else x.significand / twoPow (-x.exponent)
  if x.isNegative then -(m : Int) else m

/-- Equality of values: zeros of both signs are equal, and an undefined number equals nothing. -/
def sameValue (x y : Binary64) : Bool :=
  !x.isNaN && !y.isNaN && (x.bits == y.bits || (x.isZero && y.isZero))

end Binary64
end GatedCache
