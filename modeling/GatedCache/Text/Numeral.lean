import GatedCache.Text.Blank
import GatedCache.Text.Digit

/-!
Integers as text. A numeral may stand in white space; it has at most one sign, ASCII digits with
any number of leading zeros and single underscores between them, and may end in a point and zeros.
-/
namespace GatedCache.Text

/-- The digits of a run in which single underscores may stand between digits. -/
def ungroup? : List Char → Option (List Char)
  | [] => none
  | [c] => if c.isDigit then some [c] else none
  | c :: '_' :: cs => if c.isDigit then (ungroup? cs).map (c :: ·) else none
  | c :: d :: cs => if c.isDigit then (ungroup? (d :: cs)).map (c :: ·) else none

/-- Nothing, or a point and one or more zeros. -/
def isZeroFraction : List Char → Bool
  | [] => true
  | c :: cs => c == '.' && !cs.isEmpty && cs.all (· == '0')

def readNumeral? (cs : List Char) : Option (Bool × List Char) :=
  let (negative, body) := splitSign (trimWhile isWhiteSpace cs)
  if isZeroFraction (body.dropWhile (· != '.')) then
    (ungroup? (body.takeWhile (· != '.'))).map fun ds => (negative, ds)
  else none

def significantDigits (ds : List Char) : Nat :=
  (ds.dropWhile (· == '0')).length

def signedNumeral (negative : Bool) (ds : List Char) : Int :=
  if negative then -(numeral ds : Int) else numeral ds

end GatedCache.Text
