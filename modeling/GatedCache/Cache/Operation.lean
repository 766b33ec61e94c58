import GatedCache.Store.Command

/-!
The operations of a cache: what each is called, which key it is about, which one command it sends,
and what it makes of the reply.
-/
namespace GatedCache.Cache

inductive Operation where
  | set (key value : String) (seconds : Option Int)
  | get (key : String)
  | delete (key : String)
  | has (key : String)
  | expire (key : String) (seconds : Int)
  | ttl (key : String)
  | flush
  | ping
  | shutdown
  deriving DecidableEq

namespace Operation

def name : Operation → String
  | set _ _ _ => "set"
  | get _ => "get"
  | delete _ => "delete"
  | has _ => "exists"
  | expire _ _ => "expire"
  | ttl _ => "ttl"
  | flush => "flush"
  | ping => "ping"
  | shutdown => "shutdown"

def key? : Operation → Option String
  | set key _ _ | get key | delete key | has key | expire key _ | ttl key => some key
  | flush | ping | shutdown => none

/-- The command that an operation sends. An expiry of zero is none. -/
def command : Operation → Command
  | set key value none => .set key value
  | set key value (some seconds) => if seconds = 0 then .set key value else .setFor key seconds value
  | get key => .get key
  | delete key => .delete key
  | has key => .has key
  | expire key seconds => .expire key seconds
  | ttl key => .ttl key
  | flush => .flush
  | ping => .ping
  | shutdown => .close

def result : Operation → Value → Outcome
  | get _, reply => .ok reply
  | has _, reply => .ok (.bool reply.isOne)
  | ttl _, reply =>
    match reply.toInteger with
    | .ok i => .ok (.int i)
    | .error e => .error (.reply e)
  | ping, reply => .ok (.bool reply.truth)
  | set _ _ _, _ | delete _, _ | expire _ _, _ | flush, _ | shutdown, _ => .ok .null

/-- What a permanently empty store returns. -/
def emptyResult : Operation → Value
  | has _ => .bool false
  | ttl _ => .int (-2)
  | ping => .bool false
  | set _ _ _ | get _ | delete _ | expire _ _ | flush | shutdown => .null

end Operation
end GatedCache.Cache
