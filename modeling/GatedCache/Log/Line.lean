import GatedCache.Failure
import GatedCache.Log.Level
import GatedCache.Log.Template
import GatedCache.Value.Record

/-!
Lines of the application's own log. A message has an event, which may be a template, and fields in
order: those bound to its logger, its own, and then the event, the logger, the level, the time and
a failure. A field given twice keeps its first place and its last value. A line shows the fields
either as a record or for reading on a terminal.
-/
namespace GatedCache.Log

/-- How a message is logged: its level, and whether the failure at hand is asked for. -/
structure Method where
  level : Level
  traced : Bool
  deriving DecidableEq

def Method.ofName? (s : String) : Option Method :=
  if s = "warn" then some ⟨.warning, false⟩
  else if s = "fatal" then some ⟨.critical, false⟩
  else if s = "exception" then some ⟨.error, true⟩
  else (Level.all.find? fun l => l.label == s).map fun l => ⟨l, false⟩

abbrev Fields := List (String × Value)

namespace Fields

/-- Gives a field a value: in its place if it is there, else at the end. -/
def put (key : String) (v : Value) : Fields → Fields
  | [] => [(key, v)]
  | f :: fs => if f.1 = key then (key, v) :: fs else f :: put key v fs

def putAll (fs new : Fields) : Fields :=
  new.foldl (fun acc f => acc.put f.1 f.2) fs

def without (fs : Fields) (keys : List String) : Fields :=
  fs.filter fun f => !keys.contains f.1

end Fields

structure Message where
  logger : String
  method : Method
  event : String
  arguments : List Value
  bound : Fields
  own : Fields
  failure : Option Failure

namespace Message

/-- The name that lines give to a logger: the one without a name is the root. -/
def loggerName (logger : String) : String :=
  if logger.isEmpty then "root" else logger

/-- Fields that ask for a failure or a place; no line shows them. -/
def requests : List String := ["stack_info", "exc_info"]

def fields (m : Message) (time : String) : Except TemplateFault Fields :=
  (Template.fill m.event m.arguments).map fun event =>
    let fs := (Fields.putAll m.bound m.own).put "event" (.text event)
    let fs := fs.put "logger" (.text (loggerName m.logger))
    let fs := fs.put "level" (.text m.method.level.label)
    let fs := (fs.put "timestamp" (.text time)).without requests
    match m.failure with
    | some e => fs.put "exception" (.text e.summary)
    | none => fs

end Message

inductive Format where
  | record
  | terminal
  deriving DecidableEq

namespace Terminal

def reset : String := "\x1b[0m"
def bright : String := "\x1b[1m"
def dim : String := "\x1b[2m"
def red : String := "\x1b[31m"
def green : String := "\x1b[32m"
def yellow : String := "\x1b[33m"
def blue : String := "\x1b[34m"
def magenta : String := "\x1b[35m"
def cyan : String := "\x1b[36m"

def levelColour (label : String) : String :=
  if label = Level.debug.label || label = Level.info.label then green
  else if label = Level.warning.label then yellow
  else red

def padded (width : Nat) (s : String) : String :=
  s ++ String.ofList (List.replicate (width - s.length) ' ')

/-- Characters that would keep a bare text from reading as one word. -/
def isDivider (c : Char) : Bool :=
  c == ' ' || c == '\t' || c == '=' || c == '\r' || c == '\n' ||
    c == Text.singleQuote || c == Text.doubleQuote

/-- A value: a text stands for itself if it reads as one word. -/
def shown : Value → String
  | .text s => if s.toList.any isDivider then Text.quoted s else s
  | v => v.literal

def pair (key : String) (v : Value) : String :=
  cyan ++ key ++ reset ++ "=" ++ magenta ++ shown v ++ reset

def bracketed (v : Value) : String :=
  "[" ++ reset ++ bright ++ blue ++ v.plain ++ reset ++ "]" ++ reset

def columns : List (String × (Value → String)) :=
  [("", pair ""),
    ("timestamp", fun v => dim ++ v.plain ++ reset),
    ("level", fun v => "[" ++ levelColour v.plain ++ bright ++ padded 9 v.plain ++ reset ++ "]"),
    ("event", fun v => bright ++ padded 30 v.plain ++ reset),
    ("logger", bracketed),
    ("logger_name", bracketed)]

def trailers : List String := ["exception"]

/-- A line for a terminal: the columns, the other fields by name, and the failure below. -/
def line (fs : Fields) : String :=
  let first := columns.filterMap fun c => (fs.lookup c.1).map c.2
  let rest := (fs.without (columns.map Prod.fst ++ trailers)).mergeSort fun a b => a.1 ≤ b.1
  let words := (first ++ rest.map fun f => pair f.1 f.2).filter fun w => !w.isEmpty
  let below := trailers.filterMap fun key => (fs.lookup key).map fun v => "\n" ++ v.plain
  " ".intercalate words ++ String.join below

end Terminal

def Format.line : Format → Fields → String
  | record, fs => (Value.object fs).record
  | terminal, fs => Terminal.line fs

def withTrace (line : String) : String :=
  (if line.endsWith "\n" then line else line ++ "\n") ++ "NoneType: None"

end GatedCache.Log
