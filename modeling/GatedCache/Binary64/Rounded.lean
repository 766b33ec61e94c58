import GatedCache.Binary64.Text

/-!
Decimal text with a given number of digits: fixed with so many places, scientific with so many
digits after the point, and general, which takes the form that suits the size. Each is the exact
value rounded once, a half to the even neighbour. The sign is not written here.
-/
namespace GatedCache.Binary64

def scaled (x : Binary64) (power : Int) : Nat :=
  roundQuotient (x.significand * twoPow x.exponent * tenPow power)
    (twoPow (-x.exponent) * tenPow (-power))

/-- Digits with a point before the last so many of them. -/
def pointed (keepPoint : Bool) (places : Nat) (ds : List Char) : List Char :=
  let whole := ds.length - places
  ds.take whole ++ (if places = 0 && !keepPoint then [] else ['.']) ++ ds.drop whole

def fixed (keepPoint : Bool) (places : Nat) (x : Binary64) : List Char :=
  pointed keepPoint places (Text.numeralIn 10 (places + 1) (x.scaled places)).toList

/-- The leading digits of a finite magnitude, one and so many more, with the power of ten of the
first one. -/
def leading (places : Nat) (x : Binary64) : Nat × Int :=
  if x.isZero then (0, 0)
  else
    let power := pointPlace (withSign false x) - 1
    let power := if x.scaled (places - power) < tenPow places then power - 1 else power
    let digits := x.scaled (places - power)
    if digits < tenPow (places + 1) then (digits, power) else (digits / 10, power + 1)

def powerText (power : Int) : List Char :=
  (if power < 0 then '-' else '+') :: (Text.numeralIn 10 2 power.natAbs).toList

def scientific (keepPoint : Bool) (places : Nat) (x : Binary64) : List Char :=
  let (digits, power) := x.leading places
  pointed keepPoint places (Text.numeralIn 10 (places + 1) digits).toList ++ 'e' :: powerText power

/-- A finite magnitude in so many digits, the trailing zeros dropped unless all are to be kept. -/
def general (keepZeros : Bool) (digits : Nat) (x : Binary64) : List Char :=
  let places := max digits 1 - 1
  let (ds, power) := x.leading places
  let trim := fun (cs : List Char) =>
    if keepZeros || !cs.contains '.' then cs
    else
      let kept := (cs.reverse.dropWhile (· == '0')).reverse
      if kept.getLast? == some '.' then kept.dropLast else kept
  if -4 ≤ power && power ≤ places then trim (x.fixed keepZeros (places - power).toNat)
  else trim (pointed keepZeros places (Text.numeralIn 10 (places + 1) ds).toList) ++ 'e' :: powerText power

end GatedCache.Binary64
