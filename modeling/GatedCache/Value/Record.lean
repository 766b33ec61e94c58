import GatedCache.Value.Literal

/-!
Values in the form of log records: one line of JSON in ASCII, a blank after each comma and colon.
What JSON cannot hold stands there as the text of its literal.
-/
namespace GatedCache.Value

def recordFloat (x : Binary64) : String :=
  if x.isNaN then "NaN"
  else if x.isInfinite then (if x.isNegative then "-Infinity" else "Infinity")
  else x.write

mutual

def record : Value → String
  | null => "null"
  | bool b => if b then "true" else "false"
  | int i => toString i
  | float x => recordFloat x
  | text s => Text.recordString s
  | bytes bs => Text.recordString (Text.quotedBytes bs)
  | secret s => Text.recordString (literal (.secret s))
  | list xs => "[" ++ ", ".intercalate (records xs) ++ "]"
  | object fs => "\x7b" ++ ", ".intercalate (recordFields fs) ++ "\x7d"

def records : List Value → List String
  | [] => []
  | x :: xs => record x :: records xs

def recordFields : List (String × Value) → List String
  | [] => []
  | (k, x) :: fs => (Text.recordString k ++ ": " ++ record x) :: recordFields fs

end

end GatedCache.Value
