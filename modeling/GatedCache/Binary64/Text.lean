import GatedCache.Binary64
import GatedCache.Text.Digit

/-!
Floating-point numbers as text. Reading takes a sign, then a decimal with an optional fraction and
power of ten, or a name for infinity or an undefined number; it rounds once. Writing gives the
fewest digits that read back to the same number, positionally for values from 0.0001 up to 10^16
and with a power of ten outside that range.
-/
namespace GatedCache.Binary64

structure DecimalForm where
  /-- The point stands at most this many places before the first digit. -/
  leastPoint : Int
  /-- The point stands at most this many places after the first digit's left edge. -/
  greatestPoint : Int
  powerWidth : Nat

def standardForm : DecimalForm := ⟨-3, 16, 2⟩

def splitDigits (cs : List Char) : List Char × List Char :=
  (cs.takeWhile Char.isDigit, cs.dropWhile Char.isDigit)

/-- The power of ten after a number: nothing, or `e`, a sign and digits. -/
def readPower? : List Char → Option Int
  | [] => some 0
  | c :: cs =>
    if c = 'e' || c = 'E' then
      let (negative, rest) := Text.splitSign cs
      let (ds, rest) := splitDigits rest
      if ds.isEmpty || !rest.isEmpty then none
      else some (if negative then -(Text.numeral ds : Int) else Text.numeral ds)
    else none

def readUnsigned? (cs : List Char) : Option Binary64 :=
  let (whole, rest) := splitDigits cs
  let (fraction, rest) := match rest with
    | '.' :: r => splitDigits r
    | r => ([], r)
  if whole.isEmpty && fraction.isEmpty then none
  else (readPower? rest).map fun p => ofDecimal (Text.numeral (whole ++ fraction)) (p - fraction.length)

def readName? (cs : List Char) : Option Binary64 :=
  let name := String.ofList (cs.map Char.toLower)
  if name = "inf" || name = "infinity" then some infinity
  else if name = "nan" then some nan
  else none

def read? (cs : List Char) : Option Binary64 :=
  let (negative, rest) := Text.splitSign cs
  ((readName? rest).or (readUnsigned? rest)).map (withSign negative)

/-- Drops trailing zeros of a decimal, within a number of steps. -/
def dropZeros : Nat → Nat → Int → Nat × Int
  | 0, digits, scale => (digits, scale)
  | k + 1, digits, scale =>
    if digits ≠ 0 ∧ digits % 10 = 0 then dropZeros k (digits / 10) (scale + 1) else (digits, scale)

/-- The largest natural number not above `x / 10 ^ scale`, for a finite `x`. -/
def gridFloor (x : Binary64) (scale : Int) : Nat :=
  (x.significand * twoPow x.exponent * tenPow (-scale)) / (twoPow (-x.exponent) * tenPow scale)

/-- Whether the upper neighbour on a grid is nearer than the lower one; a tie goes to the even. -/
def upperIsNearer (x : Binary64) (lower : Nat) (scale : Int) : Bool :=
  let twice := 2 * (x.significand * twoPow x.exponent * tenPow (-scale))
  let middle := (2 * lower + 1) * (twoPow (-x.exponent) * tenPow scale)
  middle < twice || (middle == twice && lower % 2 == 1)

/-- The neighbour of a positive finite number on a decimal grid that reads back to it, the nearer
one if both do. -/
def onGrid? (x : Binary64) (scale : Int) : Option Nat :=
  let lower := gridFloor x scale
  let fits := fun n => ofDecimal n scale == x
  if fits lower && fits (lower + 1) then some (if upperIsNearer x lower scale then lower + 1 else lower)
  else if fits lower then some lower
  else if fits (lower + 1) then some (lower + 1)
  else none

/-- The number of decimal digits before the point of a positive finite number, or minus the number
of zeros after it. -/
def pointPlace (x : Binary64) : Int :=
  let estimate : Int := (((x.significand.log2 : Int) + x.exponent) * 30103).fdiv 100000
  if gridFloor x (estimate + 1) = 0 then estimate + 1 else estimate + 2

/-- The fewest digits that read back to a positive finite number, with their power of ten. -/
def shortest (x : Binary64) : Nat × Int :=
  let place := pointPlace x
  let found := (List.range 17).findSome? fun (k : Nat) =>
    let scale := place - (k + 1)
    (onGrid? x scale).map fun digits => (digits, scale)
  match found with
  | some (digits, scale) => dropZeros 20 digits scale
  | none => (x.significand, 0)

def writeDecimal (form : DecimalForm) (digits : Nat) (scale : Int) : String :=
  let ds := (Nat.repr digits).toList
  let point := (ds.length : Int) + scale
  let zeros := fun (k : Int) => List.replicate k.toNat '0'
  if form.leastPoint ≤ point ∧ point ≤ form.greatestPoint then
    String.ofList <|
      if point ≤ 0 then '0' :: '.' :: zeros (-point) ++ ds
      else if (ds.length : Int) ≤ point then ds ++ zeros (point - ds.length) ++ ['.', '0']
      else ds.take point.toNat ++ '.' :: ds.drop point.toNat
  else
    let power := point - 1
    let lead := match ds with
      | [] => []
      | [d] => [d]
      | d :: rest => d :: '.' :: rest
    String.ofList lead ++ (if power < 0 then "e-" else "e+") ++
      Text.numeralIn 10 form.powerWidth power.natAbs

def write (x : Binary64) : String :=
  if x.isNaN then "nan"
  else
    let unsigned :=
      if x.isInfinite then "inf"
      else if x.isZero then "0.0"
      else
        let (digits, scale) := shortest (withSign false x)
        writeDecimal standardForm digits scale
    if x.isNegative then "-" ++ unsigned else unsigned

end GatedCache.Binary64
