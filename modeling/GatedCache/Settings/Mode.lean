/-!
The environments that a service may run in.
-/
namespace GatedCache

inductive Mode where
  | development
  | test
  | staging
  | production
  deriving DecidableEq, Inhabited

namespace Mode

def all : List Mode := [development, test, staging, production]

def name : Mode → String
  | development => "development"
  | test => "test"
  | staging => "staging"
  | production => "production"

def ofName? (s : String) : Option Mode :=
  all.find? fun m => m.name == s

end Mode
end GatedCache
