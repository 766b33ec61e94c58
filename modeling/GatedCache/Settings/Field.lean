import GatedCache.Value

/-!
The settings of a service, as fields: their names, their order and their defaults. The order is
the one in which settings are shown and problems are listed.
-/
namespace GatedCache

inductive Field where
  | environment
  | serviceName
  | serviceVersion
  | redisEnabled
  | redisHost
  | redisPort
  | redisPassword
  | redisDb
  | redisTtl
  | redisMaxAttempts
  | redisConnectTimeout
  | redisSocketTimeout
  | logLevel
  | logJson
  deriving DecidableEq

namespace Field

def name : Field → String
  | environment => "ENVIRONMENT"
  | serviceName => "SERVICE_NAME"
  | serviceVersion => "SERVICE_VERSION"
  | redisEnabled => "REDIS_ENABLED"
  | redisHost => "REDIS_HOST"
  | redisPort => "REDIS_PORT"
  | redisPassword => "REDIS_PASSWORD"
  | redisDb => "REDIS_DB"
  | redisTtl => "REDIS_TTL"
  | redisMaxAttempts => "REDIS_MAX_ATTEMPTS"
  | redisConnectTimeout => "REDIS_CONNECT_TIMEOUT"
  | redisSocketTimeout => "REDIS_SOCKET_TIMEOUT"
  | logLevel => "LOG_LEVEL"
  | logJson => "LOG_JSON"

def all : List Field :=
  [environment, serviceName, serviceVersion, redisEnabled, redisHost, redisPort, redisPassword,
    redisDb, redisTtl, redisMaxAttempts, redisConnectTimeout, redisSocketTimeout, logLevel, logJson]

def default : Field → Value
  | environment => .text "development"
  | serviceName => .text "lms-cache"
  | serviceVersion => .text "0.1.0"
  | redisEnabled => .bool false
  | redisHost => .text "localhost"
  | redisPort => .int 6379
  | redisPassword => .null
  | redisDb => .int 0
  | redisTtl => .int 3600
  | redisMaxAttempts => .int 3
  | redisConnectTimeout => .float (Binary64.ofInt 5)
  | redisSocketTimeout => .null
  | logLevel => .text "INFO"
  | logJson => .bool true

theorem mem_all (f : Field) : f ∈ all := by
  cases f <;> decide

theorem find?_name (f : Field) : all.find? (fun g => g.name == f.name) = some f := by
  cases f <;> decide

theorem name_injective {f g : Field} (same : f.name = g.name) : f = g := by
  have found := find?_name f
  rw [same, find?_name g] at found
  exact (Option.some.inj found).symm

end Field
end GatedCache
