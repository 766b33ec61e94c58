import GatedCache.Text.Blank
import GatedCache.Value.Literal

/-!
Integers out of dynamic values, as a client's reply is read: a text may be trimmed, signed, grouped
by single underscores, and written in the digits of any script; a float loses its fraction.
-/
namespace GatedCache

inductive NotInteger where
  /-- A text that is no numeral; it carries the literal. -/
  | malformed (shown : String)
  /-- A numeral of too many digits. -/
  | tooLong (digits : Nat)
  | unsupported (kind : String)
  | undefined
  | infinite
  deriving DecidableEq

namespace NotInteger

def digitLimit : Nat := 4300

def kindName : NotInteger → String
  | malformed _ => "ValueError"
  | tooLong _ => "ValueError"
  | unsupported _ => "TypeError"
  | undefined => "ValueError"
  | infinite => "OverflowError"

/-- At most this much of a malformed text's literal is quoted. -/
def shownLimit : Nat := 200

def message : NotInteger → String
  | malformed shown =>
    "invalid literal for int() with base 10: " ++ String.ofList (shown.toList.take shownLimit)
  | tooLong digits =>
    "Exceeds the limit (4300 digits) for integer string conversion: value has " ++ toString digits ++
      " digits; use sys.set_int_max_str_digits() to increase the limit"
  | unsupported kind =>
    "int() argument must be a string, a bytes-like object or a real number, not \x27" ++ kind ++ "\x27"
  | undefined => "cannot convert float NaN to integer"
  | infinite => "cannot convert float infinity to integer"

end NotInteger

namespace Value

/-- Text with digits of every script as ASCII digits, and white space beyond ASCII as spaces. -/
def plainDigits (cs : List Char) : List Char :=
  cs.map fun c =>
    if c.toNat < 0x7F then c
    else if Text.isBlank c then ' '
    else match Text.digitValue? c with
      | some d => Char.ofNat (48 + d)
      | none => '?'

def splitGrouped (cs : List Char) : List Char × List Char :=
  (cs.takeWhile fun c => c.isDigit || c == '_', cs.dropWhile fun c => c.isDigit || c == '_')

/-- Whether underscores stand singly, each between two digits. -/
def wellGrouped : List Char → Bool
  | [] => false
  | [c] => c.isDigit
  | c :: d :: cs => (c.isDigit || (c == '_' && d.isDigit)) && wellGrouped (d :: cs)

def readNumeral (shown : String) (cs : List Char) : Except NotInteger Int :=
  let body := cs.dropWhile Text.isAsciiSpace
  let (negative, rest) := Text.splitSign body
  let (group, rest) := splitGrouped rest
  let ds := group.filter Char.isDigit
  if !wellGrouped group || group.head? == some '_' then .error (.malformed shown)
  else if NotInteger.digitLimit < ds.length then .error (.tooLong ds.length)
  else if !(rest.all Text.isAsciiSpace) then .error (.malformed shown)
  else .ok (if negative then -(Text.numeral ds : Int) else Text.numeral ds)

def toInteger : Value → Except NotInteger Int
  | bool b => .ok (if b then 1 else 0)
  | int i => .ok i
  | float x =>
    if x.isNaN then .error .undefined
    else if x.isInfinite then .error .infinite
    else .ok x.truncate
  | text s => readNumeral (Text.quoted s) (plainDigits s.toList)
  | bytes bs => readNumeral (Text.quotedBytes bs) (bs.map fun b => Char.ofNat b.toNat)
  | v => .error (.unsupported v.kindName)

end Value
end GatedCache
