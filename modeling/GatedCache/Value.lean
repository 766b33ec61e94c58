import GatedCache.Binary64

/-!
Dynamic values: what a caller may hand in as a setting, what a store client may reply, and what
log records and error details carry. A secret is text that is shown masked.
-/
namespace GatedCache

/-- A dynamic value. Objects keep the order of their fields. -/
inductive Value where
  | null
  | bool (b : Bool)
  | int (i : Int)
  | float (x : Binary64)
  | text (s : String)
  | bytes (bs : List UInt8)
  | secret (s : String)
  | list (xs : List Value)
  | object (fields : List (String × Value))
  deriving Inhabited

namespace Value

def kindName : Value → String
  | null => "NoneType"
  | bool _ => "bool"
  | int _ => "int"
  | float _ => "float"
  | text _ => "str"
  | bytes _ => "bytes"
  | secret _ => "SecretStr"
  | list _ => "list"
  | object _ => "dict"

/-- Null, false, zero and whatever is empty count as false. -/
def truth : Value → Bool
  | null => false
  | bool b => b
  | int i => i != 0
  | float x => !x.isZero
  | text s => !s.isEmpty
  | bytes bs => !bs.isEmpty
  | secret s => !s.isEmpty
  | list xs => !xs.isEmpty
  | object fs => !fs.isEmpty

/-- Equal to the number one: the integer, the float, or true. -/
def isOne : Value → Bool
  | bool b => b
  | int i => i == 1
  | float x => x.sameValue (Binary64.ofInt 1)
  | _ => false

def ofText? : Option String → Value
  | none => null
  | some s => text s

def decodeUtf8? (bs : List UInt8) : Option String :=
  String.fromUTF8? ⟨bs.toArray⟩

/-- What stands for a secret wherever settings are shown: nothing for an empty one. -/
def mask (s : String) : String :=
  if s.isEmpty then "" else "**********"

end Value
end GatedCache
