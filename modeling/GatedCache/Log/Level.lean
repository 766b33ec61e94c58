/-!
Severity levels. A level has a rank, by which thresholds compare, and two spellings: the name in
capitals that settings and records use, and the label of rendered lines.
-/
namespace GatedCache.Log

inductive Level where
  | debug
  | info
  | warning
  | error
  | critical
  deriving DecidableEq, Inhabited

namespace Level

def all : List Level := [debug, info, warning, error, critical]

def rank : Level → Nat
  | debug => 10
  | info => 20
  | warning => 30
  | error => 40
  | critical => 50

def name : Level → String
  | debug => "DEBUG"
  | info => "INFO"
  | warning => "WARNING"
  | error => "ERROR"
  | critical => "CRITICAL"

def label : Level → String
  | debug => "debug"
  | info => "info"
  | warning => "warning"
  | error => "error"
  | critical => "critical"

def ofName? (s : String) : Option Level :=
  all.find? fun l => l.name == s

/-- The rank of a threshold by its name: a level, an older spelling of one, or no threshold. -/
def rankOfName? (s : String) : Option Nat :=
  if s = "NOTSET" then some 0
  else if s = "WARN" then some warning.rank
  else if s = "FATAL" then some critical.rank
  else (ofName? s).map rank

theorem ofName?_name (l : Level) : ofName? l.name = some l := by
  cases l <;> decide

theorem rankOfName?_name (l : Level) : rankOfName? l.name = some l.rank := by
  cases l <;> decide

end Level
end GatedCache.Log
