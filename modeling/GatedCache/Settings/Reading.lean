import GatedCache.Binary64.Text
import GatedCache.Settings.Fault
import GatedCache.Text.Numeral
import GatedCache.Text.UpperCase

/-!
How a dynamic value becomes the content of a field. Text is accepted wherever it denotes a value
of the field's kind, bytes wherever their UTF-8 text is; numbers pass between kinds if nothing is
lost. Bounds are checked after a value was read.
-/
namespace GatedCache.Settings

/-- The longest numeral that is read, in digits after the leading zeros. -/
def numeralLimit : Nat := 4300

def readText : Value → Except Fault String
  | .text s => .ok s
  | .bytes bs =>
    match Value.decodeUtf8? bs with
    | some s => .ok s
    | none => .error .textEncoding
  | _ => .error .notText

def flagWord (s : String) : Except Fault Bool :=
  let word := String.ofList (s.toList.map Char.toLower)
  if ["1", "t", "true", "y", "yes", "on"].contains word then .ok true
  else if ["0", "f", "false", "n", "no", "off"].contains word then .ok false
  else .error .flagWord

/-- One beyond the greatest signed word of 64 bits. -/
def wordLimit : Int := 0x8000000000000000

def fitsWord (i : Int) : Bool := -wordLimit ≤ i && i < wordLimit

/-- The integer that a float is, if it has no fraction and lies strictly between the bounds of
signed words of 64 bits. -/
def floatInteger (x : Binary64) : Except Fault Int :=
  if !x.isFinite then .error .notFinite
  else if !x.isIntegral then .error .integerFraction
  else if -wordLimit < x.truncate && x.truncate < wordLimit then .ok x.truncate
  else .error .integerSize

def flagNumber (i : Int) : Except Fault Bool :=
  if i = 0 then .ok false else if i = 1 then .ok true else .error .flagWord

def readFlag : Value → Except Fault Bool
  | .bool b => .ok b
  | .int i => if fitsWord i then flagNumber i else .error .notFlag
  | .float x =>
    match floatInteger x with
    | .ok i => flagNumber i
    | .error _ => .error .notFlag
  | .text s => flagWord s
  | .bytes bs =>
    match Value.decodeUtf8? bs with
    | some s => flagWord s
    | none => .error .flagWord
  | _ => .error .notFlag

def integerText (s : String) : Except Fault Int :=
  match Text.readNumeral? s.toList with
  | none => .error .integerText
  | some (negative, ds) =>
    if numeralLimit < Text.significantDigits ds then .error .integerSize
    else .ok (Text.signedNumeral negative ds)

def readInteger : Value → Except Fault Int
  | .bool b => .ok (if b then 1 else 0)
  | .int i => .ok i
  | .float x => floatInteger x
  | .text s => integerText s
  | .bytes bs =>
    match Value.decodeUtf8? bs with
    | some s => integerText s
    | none => .error .integerText
  | _ => .error .notInteger

/-- Drops single underscores that stand between other characters. -/
def dropUnderscores? (cs : List Char) : Option (List Char) :=
  let doubled := (cs.zip (cs.drop 1)).contains ('_', '_')
  if Text.startsWith '_' cs || Text.startsWith '_' cs.reverse || doubled then none
  else some (cs.filter (· != '_'))

def numberText (s : String) : Except Fault Binary64 :=
  match (dropUnderscores? (Text.trimWhile Text.isWhiteSpace s.toList)).bind Binary64.read? with
  | some x => .ok x
  | none => .error .numberText

def readNumber : Value → Except Fault Binary64
  | .bool b => .ok (Binary64.ofInt (if b then 1 else 0))
  | .int i =>
    match Binary64.ofInt? i with
    | some x => .ok x
    | none => .error .notNumber
  | .float x => .ok x
  | .text s => numberText s
  | .bytes bs =>
    match Value.decodeUtf8? bs with
    | some s => numberText s
    | none => .error .numberText
  | _ => .error .notNumber

def readAtLeast (least : Int) (v : Value) : Except Fault Int :=
  match readInteger v with
  | .ok i => if i < least then .error (.below least) else .ok i
  | .error e => .error e

def readBetween (least greatest : Int) (v : Value) : Except Fault Int :=
  match readAtLeast least v with
  | .ok i => if greatest < i then .error (.above greatest) else .ok i
  | .error e => .error e

def readPositive (v : Value) : Except Fault Binary64 :=
  match readNumber v with
  | .ok x => if x.isPositive then .ok x else .error .notPositive
  | .error e => .error e

def readPositive? : Value → Except Fault (Option Binary64)
  | .null => .ok none
  | v => (readPositive v).map some

/-- A password, or none. Blank text is no password; bytes and secrets are kept as they are. -/
def readPassword : Value → Except Fault (Option String)
  | .null => .ok none
  | .text s => .ok (if Text.isBlankText s then none else some s)
  | .secret s => .ok (some s)
  | .bytes bs =>
    match Value.decodeUtf8? bs with
    | some s => .ok (some s)
    | none => .error .notText
  | _ => .error .notText

def readMode (v : Value) : Except Fault Mode :=
  match readText v with
  | .ok s =>
    match Mode.ofName? s with
    | some m => .ok m
    | none => .error .unknownMode
  | .error e => .error e

def readLevel (v : Value) : Except Fault Log.Level :=
  match readText v with
  | .ok s =>
    match Log.Level.ofName? (Text.upperCase s) with
    | some l => .ok l
    | none => .error .unknownLevel
  | .error e => .error e

end GatedCache.Settings
