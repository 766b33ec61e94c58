import GatedCache.Log.Level
import GatedCache.Value

/-!
Records that the service writes to its log: where from, how severe, the message, and the values
that go with it.
-/
namespace GatedCache.Log

inductive Origin where
  | cache
  | connection
  | lifecycle
  | health
  deriving DecidableEq

def Origin.name : Origin → String
  | .cache => "cache_service"
  | .connection => "connection_factory"
  | .lifecycle => "lifecycle"
  | .health => "health"

structure Record where
  origin : Origin
  level : Level
  message : String
  extra : List (String × Value)

end GatedCache.Log
