import GatedCache.Binary64.Rounded
import GatedCache.Value.Integer
import GatedCache.Value.Literal

/-!
Message templates. A percent sign starts a slot, which is filled with an argument. A slot may name
its argument; it has flags, a width, a precision and a letter that says how the argument is written.
Two percent signs are one. Slots are filled from left to right, and the first one that cannot be
filled decides the fault.
-/
namespace GatedCache.Log

inductive TemplateFault where
  | tooFew
  | tooMany
  | incomplete
  | incompleteKey
  | noMapping
  | missing (key : String)
  | starKind
  /-- A width or a precision beyond every text. -/
  | tooBig (what : String)
  | unknownLetter (letter : Char) (index : Nat)
  | notReal (letter : Char) (kind : String)
  | notInteger (letter : Char) (kind : String)
  | notNumber (kind : String)
  | tooLarge
  | number (problem : GatedCache.NotInteger)
  | notCharacter
  | characterRange

namespace TemplateFault

def kindName : TemplateFault → String
  | incomplete | incompleteKey | tooBig _ | unknownLetter _ _ => "ValueError"
  | missing _ => "KeyError"
  | tooLarge | characterRange => "OverflowError"
  | number problem => problem.kindName
  | _ => "TypeError"

def message : TemplateFault → String
  | tooFew => "not enough arguments for format string"
  | tooMany => "not all arguments converted during string formatting"
  | incomplete => "incomplete format"
  | incompleteKey => "incomplete format key"
  | noMapping => "format requires a mapping"
  | missing key => Text.quoted key
  | starKind => "* wants int"
  | tooBig what => what ++ " too big"
  | unknownLetter letter index =>
    let shown := if 31 ≤ letter.toNat && letter.toNat ≤ 126 then letter else '?'
    "unsupported format character \x27" ++ String.singleton shown ++ "\x27 (0x" ++
      Text.numeralIn 16 1 letter.toNat ++ ") at index " ++ toString index
  | notReal letter kind =>
    "%" ++ String.singleton letter ++ " format: a real number is required, not " ++ kind
  | notInteger letter kind =>
    "%" ++ String.singleton letter ++ " format: an integer is required, not " ++ kind
  | notNumber kind => "must be real number, not " ++ kind
  | tooLarge => "int too large to convert to float"
  | number problem => problem.message
  | notCharacter => "%c requires int or char"
  | characterRange => "%c arg not in range(0x110000)"

end TemplateFault

namespace Template

/-- The name of a slot's argument, if it has one; the name may lack its closing bracket. -/
inductive Key where
  | none
  | named (key : List Char)
  | unclosed

/-- A width or a precision: not given, a number, or the next argument. -/
inductive Extent where
  | absent
  | fixed (n : Nat)
  | argument

/-- What stands between a percent sign and the end of its slot. There is no letter if the template
ends first. -/
structure Slot where
  key : Key
  flags : List Char
  width : Extent
  precision : Extent
  letter : Option Char

/-- The text up to the bracket that closes a number of open ones, and the rest after it. -/
def closing? : Nat → List Char → Option (List Char × List Char)
  | _, [] => none
  | depth, ')' :: cs =>
    match depth with
    | 0 => some ([], cs)
    | d + 1 => (closing? d cs).map fun r => (')' :: r.1, r.2)
  | depth, '(' :: cs => (closing? (depth + 1) cs).map fun r => ('(' :: r.1, r.2)
  | depth, c :: cs => (closing? depth cs).map fun r => (c :: r.1, r.2)

def readKey : List Char → Key × List Char
  | '(' :: cs =>
    match closing? 0 cs with
    | some (key, rest) => (.named key, rest)
    | none => (.unclosed, [])
  | cs => (.none, cs)

def readExtent : List Char → Extent × List Char
  | '*' :: cs => (.argument, cs)
  | cs =>
    let ds := cs.takeWhile Char.isDigit
    (if ds.isEmpty then .absent else .fixed (Text.numeral ds), cs.dropWhile Char.isDigit)

def readPrecision : List Char → Extent × List Char
  | '.' :: cs =>
    match readExtent cs with
    | (.absent, rest) => (.fixed 0, rest)
    | r => r
  | cs => (.absent, cs)

/-- One letter for the size of a number, which means nothing here. -/
def skipSize : List Char → List Char
  | [] => []
  | c :: cs => if c = 'h' || c = 'l' || c = 'L' then cs else c :: cs

def isFlag (c : Char) : Bool :=
  c == '-' || c == '+' || c == ' ' || c == '#' || c == '0'

def readSlot (cs : List Char) : Slot × List Char :=
  let (key, cs) := readKey cs
  let flags := cs.takeWhile isFlag
  let (width, cs) := readExtent (cs.dropWhile isFlag)
  let (precision, cs) := readPrecision cs
  let cs := skipSize cs
  (⟨key, flags, width, precision, cs.head?⟩, cs.drop 1)

structure Supply where
  pending : List Value
  mapping : Option (List (String × Value))

/-- Arguments in order; a single object that is not empty gives them by name. -/
def Supply.ofArguments : List Value → Supply
  | [.object (f :: fs)] => ⟨[.object (f :: fs)], some (f :: fs)⟩
  | vs => ⟨vs, none⟩

def Supply.next (s : Supply) : Except TemplateFault (Value × Supply) :=
  match s.pending with
  | v :: vs => .ok (v, { s with pending := vs })
  | [] => .error .tooFew

def Supply.select (s : Supply) : Key → Except TemplateFault Supply
  | .none => .ok s
  | key =>
    match s.mapping with
    | none => .error .noMapping
    | some fields =>
      match key with
      | .named k =>
        match fields.lookup (String.ofList k) with
        | some v => .ok { s with pending := [v] }
        | none => .error (.missing (String.ofList k))
      | _ => .error .incompleteKey

structure Measure where
  name : String
  bits : Nat

def widthMeasure : Measure := ⟨"width", 63⟩
def precisionMeasure : Measure := ⟨"precision", 31⟩

def Measure.check (m : Measure) (i : Int) : Except TemplateFault Int :=
  if i.natAbs < Nat.pow 2 m.bits then .ok i else .error (.tooBig m.name)

/-- The number that an extent comes to, if it is given. -/
def Supply.extent (s : Supply) (m : Measure) : Extent → Except TemplateFault (Option Int × Supply)
  | .absent => .ok (none, s)
  | .fixed n => (m.check n).map fun i => (some i, s)
  | .argument =>
    match s.next with
    | .ok (.int i, s) => (m.check i).map fun i => (some i, s)
    | .ok (.bool b, s) => .ok (some (if b then 1 else 0), s)
    | .ok _ => .error .starKind
    | .error e => .error e

/-- What a slot writes: what stays at the left of zeros that fill it up, the body, and whether
zeros may fill it up. -/
structure Body where
  lead : List Char
  digits : List Char
  numeric : Bool

def sign (flags : List Char) (negative : Bool) : List Char :=
  if negative then ['-']
  else if flags.contains '+' then ['+']
  else if flags.contains ' ' then [' ']
  else []

def base (letter : Char) : Nat :=
  if letter = 'o' then 8 else if letter.toLower = 'x' then 16 else 10

/-- The integer that a letter writes. In base ten a number loses its fraction. -/
def integer (letter : Char) : Value → Except TemplateFault Int
  | .int i => .ok i
  | .bool b => .ok (if b then 1 else 0)
  | v =>
    if base letter ≠ 10 then .error (.notInteger letter v.kindName)
    else
      match v with
      | .float _ => v.toInteger.mapError .number
      | _ => .error (.notReal letter v.kindName)

def capitals (letter : Char) (digits : List Char) : List Char :=
  if letter.isUpper then digits.map Char.toUpper else digits

def integerBody (flags : List Char) (letter : Char) (least : Nat) (i : Int) : Body :=
  let base := base letter
  let digits := (Text.numeralIn base least i.natAbs).toList
  let mark := if flags.contains '#' && base ≠ 10 then ['0', letter] else []
  ⟨sign flags (i < 0) ++ mark, capitals letter digits, true⟩

def number : Value → Except TemplateFault Binary64
  | .int i =>
    match Binary64.ofInt? i with
    | some x => .ok x
    | none => .error .tooLarge
  | .bool b => .ok (Binary64.ofInt (if b then 1 else 0))
  | .float x => .ok x
  | v => .error (.notNumber v.kindName)

def numberBody (flags : List Char) (letter : Char) (precision : Nat) (x : Binary64) : Body :=
  let keep := flags.contains '#'
  let digits :=
    if x.isNaN then "nan".toList
    else if x.isInfinite then "inf".toList
    else if letter.toLower = 'e' then x.scientific keep precision
    else if letter.toLower = 'g' then x.general keep precision
    else x.fixed keep precision
  ⟨sign flags (x.isNegative && !x.isNaN), capitals letter digits, true⟩

def character : Value → Except TemplateFault Char
  | .int i =>
    if 0 ≤ i && i < 0x110000 then .ok (Char.ofNat i.toNat) else .error .characterRange
  | .bool b => .ok (Char.ofNat (if b then 1 else 0))
  | .text s =>
    match s.toList with
    | [c] => .ok c
    | _ => .error .notCharacter
  | _ => .error .notCharacter

def textBody (precision : Option Int) (s : String) : Body :=
  let cs := s.toList
  ⟨[], match precision with
    | some p => cs.take p.toNat
    | none => cs, false⟩

def body (flags : List Char) (precision : Option Int) (index : Nat) (letter : Char) (v : Value) :
    Except TemplateFault Body :=
  if letter = 's' then .ok (textBody precision v.plain)
  else if letter = 'r' then .ok (textBody precision v.literal)
  else if letter = 'a' then .ok (textBody precision (Text.asciiLiteral v.literal))
  else if "diuoxX".toList.contains letter then
    (integer letter v).map (integerBody flags letter (max 1 (precision.getD 1).toNat))
  else if "eEfFgG".toList.contains letter then
    (number v).map (numberBody flags letter (precision.getD 6).toNat)
  else if letter = 'c' then (character v).map fun c => ⟨[], [c], false⟩
  else .error (.unknownLetter letter index)

/-- Fills a body up to a width; a negative width is one to the left. -/
def pad (flags : List Char) (width : Int) (b : Body) : List Char :=
  let gap := width.natAbs - (b.lead.length + b.digits.length)
  if flags.contains '-' || width < 0 then b.lead ++ b.digits ++ List.replicate gap ' '
  else if b.numeric && flags.contains '0' then b.lead ++ List.replicate gap '0' ++ b.digits
  else List.replicate gap ' ' ++ b.lead ++ b.digits

def fillSlot (slot : Slot) (index : Nat) (s : Supply) : Except TemplateFault (List Char × Supply) := do
  let s ← s.select slot.key
  let (width, s) ← s.extent widthMeasure slot.width
  let (precision, s) ← s.extent precisionMeasure slot.precision
  match slot.letter with
  | none => .error .incomplete
  | some letter =>
    let (v, s) ← s.next
    let b ← body slot.flags (precision.map (max 0)) index letter v
    .ok (pad slot.flags (width.getD 0) b, s)

/-- Fills the rest of a template of the given length, in so many steps at most. -/
def fillWithin (length : Nat) : Nat → List Char → Supply → Except TemplateFault (List Char)
  | 0, _, _ => .ok []
  | _ + 1, [], s => if s.mapping.isNone && !s.pending.isEmpty then .error .tooMany else .ok []
  | n + 1, '%' :: '%' :: cs, s => (fillWithin length n cs s).map ('%' :: ·)
  | n + 1, '%' :: cs, s => do
    let (slot, rest) := readSlot cs
    let (filled, s) ← fillSlot slot (length - rest.length - 1) s
    let tail ← fillWithin length n rest s
    .ok (filled ++ tail)
  | n + 1, c :: cs, s => (fillWithin length n cs s).map (c :: ·)

/-- Fills a template with arguments; without arguments it stands as it is. -/
def fill (template : String) (arguments : List Value) : Except TemplateFault String :=
  if arguments.isEmpty then .ok template
  else
    let cs := template.toList
    (fillWithin cs.length (cs.length + 1) cs (.ofArguments arguments)).map String.ofList

end Template
end GatedCache.Log
