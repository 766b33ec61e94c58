import GatedCache.Failure
import GatedCache.Settings

/-!
The connection to a store, as settings describe it. Making one opens nothing. A request is tried at
most as often as the settings say, so the retries are one less.
-/
namespace GatedCache

structure Connection where
  host : String
  tcpPort : Int
  password : Option String
  database : Int
  connectTimeout : Binary64
  socketTimeout : Option Binary64
  /-- How often a request is tried again after its first failure. -/
  retries : Int
  deriving DecidableEq

namespace Connection

def encoding : String := "utf-8"

/-- Replies are texts, not bytes. -/
def decodesReplies : Bool := true

/-- The faults after which a request is tried again, with all faults under them. -/
def retriedFaults : List StoreFault := [.connection, .timeout]

def ofSettings (s : Settings) : Connection :=
  { host := s.redisHost
    tcpPort := s.redisPort
    password := s.redisPassword
    database := s.redisDb
    connectTimeout := s.redisConnectTimeout
    socketTimeout := s.redisSocketTimeout
    retries := s.redisMaxAttempts - 1 }

end Connection
end GatedCache
