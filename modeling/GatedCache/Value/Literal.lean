import GatedCache.Binary64.Text
import GatedCache.Text.Quoted
import GatedCache.Value

/-!
Values as literals, the form in which settings and console lines show them: texts quoted, lists in
brackets, objects in braces, secrets masked.
-/
namespace GatedCache.Value

mutual

def literal : Value → String
  | null => "None"
  | bool b => if b then "True" else "False"
  | int i => toString i
  | float x => x.write
  | text s => Text.quoted s
  | bytes bs => Text.quotedBytes bs
  | secret s => "SecretStr(" ++ Text.quoted (mask s) ++ ")"
  | list xs => "[" ++ ", ".intercalate (literals xs) ++ "]"
  | object fs => "\x7b" ++ ", ".intercalate (literalFields fs) ++ "\x7d"

def literals : List Value → List String
  | [] => []
  | x :: xs => literal x :: literals xs

def literalFields : List (String × Value) → List String
  | [] => []
  | (k, x) :: fs => (Text.quoted k ++ ": " ++ literal x) :: literalFields fs

end

/-- A value as running text: a text itself, a secret masked, all else as a literal. -/
def plain : Value → String
  | text s => s
  | secret s => mask s
  | v => literal v

end GatedCache.Value
