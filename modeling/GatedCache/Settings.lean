import GatedCache.Settings.Reading
import GatedCache.Settings.Source

/-!
The settings of a service. Loading validates each field on its own and reports every field that
fails, in order; it succeeds when none does.
-/
namespace GatedCache

structure Settings where
  mode : Mode
  serviceName : String
  serviceVersion : String
  redisEnabled : Bool
  redisHost : String
  redisPort : Int
  redisPassword : Option String
  redisDb : Int
  redisTtl : Int
  redisMaxAttempts : Int
  redisConnectTimeout : Binary64
  redisSocketTimeout : Option Binary64
  logLevel : Log.Level
  logJson : Bool
  deriving DecidableEq

namespace Settings

def isDevelopment (s : Settings) : Bool := s.mode == .development
def isProduction (s : Settings) : Bool := s.mode == .production

abbrev Checked (α : Type) := Except (List Problem) α

def check {α : Type} (sources : Sources) (f : Field) (read : Value → Except Fault α) : Checked α :=
  match read (sources.raw f) with
  | .ok a => .ok a
  | .error e => .error [⟨f, e⟩]

/-- Gives a checked argument to a checked function; the problems of both are kept, in order. -/
def Checked.and {α β : Type} (f : Checked (α → β)) (a : Checked α) : Checked β :=
  match f, a with
  | .ok g, .ok x => .ok (g x)
  | .ok _, .error q => .error q
  | .error p, .ok _ => .error p
  | .error p, .error q => .error (p ++ q)

def load (s : Sources) : Checked Settings :=
  (check s .environment readMode).map Settings.mk
    |> (Checked.and · (check s .serviceName readText))
    |> (Checked.and · (check s .serviceVersion readText))
    |> (Checked.and · (check s .redisEnabled readFlag))
    |> (Checked.and · (check s .redisHost readText))
    |> (Checked.and · (check s .redisPort (readBetween 1 65535)))
    |> (Checked.and · (check s .redisPassword readPassword))
    |> (Checked.and · (check s .redisDb (readAtLeast 0)))
    |> (Checked.and · (check s .redisTtl (readAtLeast 1)))
    |> (Checked.and · (check s .redisMaxAttempts (readBetween 1 10)))
    |> (Checked.and · (check s .redisConnectTimeout readPositive))
    |> (Checked.and · (check s .redisSocketTimeout readPositive?))
    |> (Checked.and · (check s .logLevel readLevel))
    |> (Checked.and · (check s .logJson readFlag))

/-- The value of a field as it is shown: the password is a secret, names stand for themselves. -/
def shown (s : Settings) : Field → Value
  | .environment => .text s.mode.name
  | .serviceName => .text s.serviceName
  | .serviceVersion => .text s.serviceVersion
  | .redisEnabled => .bool s.redisEnabled
  | .redisHost => .text s.redisHost
  | .redisPort => .int s.redisPort
  | .redisPassword => (s.redisPassword.map Value.secret).getD .null
  | .redisDb => .int s.redisDb
  | .redisTtl => .int s.redisTtl
  | .redisMaxAttempts => .int s.redisMaxAttempts
  | .redisConnectTimeout => .float s.redisConnectTimeout
  | .redisSocketTimeout => (s.redisSocketTimeout.map Value.float).getD .null
  | .logLevel => .text s.logLevel.name
  | .logJson => .bool s.logJson

end Settings
end GatedCache
