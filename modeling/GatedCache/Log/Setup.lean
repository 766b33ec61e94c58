import GatedCache.Log.Line
import GatedCache.Text.UpperCase

/-!
The set-up of a process's log. Configuring it chooses the format of lines each time, but the
handler and the threshold only the first time; a logger of the application that has been used keeps
the format it had then. What passes the threshold is written once for each handler.
-/
namespace GatedCache.Log

inductive SetupFault where
  | notText (kind : String)
  | unknownLevel (name : String)
  /-- The name of a line pattern, given as a level. -/
  | patternName

namespace SetupFault

def kindName : SetupFault → String
  | notText _ | unknownLevel _ => "AttributeError"
  | patternName => "ValueError"

def message : SetupFault → String
  | notText kind => "\x27" ++ kind ++ "\x27 object has no attribute \x27upper\x27"
  | unknownLevel name => "module \x27logging\x27 has no attribute \x27" ++ name ++ "\x27"
  | patternName => "Unknown level: \x27%(levelname)s:%(name)s:%(message)s\x27"

end SetupFault

structure Setup where
  format : Option Format
  handlers : Nat
  threshold : Nat
  kept : List (String × Format)
  deriving DecidableEq

namespace Setup

def fresh : Setup := ⟨none, 0, Level.warning.rank, []⟩

/-- Installs the handler with a threshold, unless there is one. -/
def install (s : Setup) (threshold : Nat) : Setup :=
  if s.handlers = 0 then { s with handlers := 1, threshold := threshold } else s

def choose (s : Setup) (records : Bool) : Setup :=
  { s with format := some (if records then .record else .terminal) }

def patternName : String := "BASIC_FORMAT"

/-- Sets the level by its name in capitals. A pattern's name installs the handler before it
fails. -/
def setLevel (s : Setup) (name : String) : Except SetupFault Unit × Setup :=
  if name = patternName then
    if s.handlers = 0 then (.error .patternName, s.install s.threshold) else (.ok (), s)
  else
    match Level.rankOfName? name with
    | some rank => (.ok (), s.install rank)
    | none => (.error (.unknownLevel name), s)

/-- Configures the log: a level by its name in any letter case, and the format. -/
def configure (s : Setup) (level : Value) (records : Bool) : Except SetupFault Unit × Setup :=
  match level with
  | .text name => (s.choose records).setLevel (Text.upperCase name)
  | v => (.error (.notText v.kindName), s.choose records)

def passes (s : Setup) (level : Level) : Bool := s.threshold ≤ level.rank

def emit (s : Setup) (level : Level) (line : String) : List String :=
  if s.passes level then List.replicate s.handlers line else []

def plain (s : Setup) (method : Method) (text : String) : List String :=
  s.emit method.level (if method.traced then withTrace text else text)

def formatOf (s : Setup) (logger : String) : Option Format :=
  (s.kept.lookup logger).or s.format

def keep (s : Setup) (logger : String) (f : Format) : Setup :=
  if (s.kept.lookup logger).isSome then s else { s with kept := (logger, f) :: s.kept }

def linesIn (s : Setup) (time : String) (f : Format) (m : Message) : Except TemplateFault (List String) :=
  if s.passes m.method.level then
    (m.fields time).map fun fs => s.plain m.method (f.line fs)
  else .ok []

/-- Logs a message of the application. A logger with bound fields is another one, so its use keeps
nothing. -/
def log (s : Setup) (time : String) (m : Message) : Except TemplateFault (List String) × Setup :=
  match s.formatOf m.logger with
  | none => (.ok [], s)
  | some f => (s.linesIn time f m, if m.bound.isEmpty then s.keep m.logger f else s)

def textOf (lines : List String) : String :=
  String.join (lines.map fun l => l ++ "\n")

end Setup
end GatedCache.Log
