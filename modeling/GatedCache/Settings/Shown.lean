import GatedCache.Settings
import GatedCache.Value.Literal

/-!
Settings as text: each field by name with its value as a literal, in order. The password stands
there masked.
-/
namespace GatedCache.Settings

def fields (s : Settings) : List String :=
  Field.all.map fun f => f.name ++ "=" ++ (s.shown f).literal

def literal (s : Settings) : String :=
  "Settings(" ++ ", ".intercalate s.fields ++ ")"

def plain (s : Settings) : String :=
  " ".intercalate s.fields

end GatedCache.Settings
