import GatedCache.EnvFile.Expansion
import GatedCache.Settings.Field

/-!
Where settings come from: the caller's keywords, the environment, and a file of bindings, in this
order of precedence and field by field. A source that gives a value is not replaced by another one,
whatever the value is; names that are not fields are ignored.
-/
namespace GatedCache.Settings

structure Sources where
  keywords : List (String × Value)
  environment : List (String × String)
  /-- The text of the file of bindings, if there is one. -/
  file : Option String

namespace Sources

def fileValue? (s : Sources) (name : String) : Option String :=
  s.file.bind fun text => EnvFile.value? s.environment text name

def outerValue? (s : Sources) (name : String) : Option Value :=
  ((s.environment.lookup name).or (s.fileValue? name)).map .text

def raw (s : Sources) (f : Field) : Value :=
  ((s.keywords.lookup f.name).or (s.outerValue? f.name)).getD f.default

end Sources
end GatedCache.Settings
