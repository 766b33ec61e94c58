import GatedCache.Cache
import GatedCache.Connection

/-!
How a cache comes to be. Settings decide which kind it is. Opening a live cache also asks its store
once whether it is there; the answer is logged, and a store that is not there is no reason to fail.
-/
namespace GatedCache.Cache

variable {σ : Type}

def disabledRecord : Log.Record :=
  ⟨.lifecycle, .warning, "Redis is disabled via configuration. All cache operations will be no-ops.", []⟩

def create (s : Settings) : Cache × List Event :=
  if s.redisEnabled then (live s.redisTtl false, [])
  else (disabled s.redisTtl, [.log disabledRecord])

/-- How many connections creating a cache makes: one if it is live and was not handed a client. -/
def connectionsMade (s : Settings) (handed : Bool) : Nat :=
  if s.redisEnabled && !handed then 1 else 0

def place (s : Settings) : List (String × Value) :=
  [("host", .text s.redisHost), ("port", .int s.redisPort), ("db", .int s.redisDb)]

def connectedRecord (s : Settings) : Log.Record :=
  ⟨.connection, .info, "Redis connected successfully", place s⟩

def unreachableRecord (s : Settings) (e : Failure) : Log.Record :=
  ⟨.connection, .error, "Redis connection error: " ++ e.text, place s⟩

structure Probe (σ : Type) where
  result : Except Failure Bool
  state : σ
  trace : List Event

/-- Asks the store once. Faults of the store and of the system mean that it is not there; whatever
it replies means that it is. -/
def probe (client : Client σ) (s : Settings) (state : σ) : Probe σ :=
  match client.answer state .ping with
  | (.ok _, state) => ⟨.ok true, state, [.call .ping, .log (connectedRecord s)]⟩
  | (.error e, state) =>
    if e.isStore || e.isSystem then ⟨.ok false, state, [.call .ping, .log (unreachableRecord s e)]⟩
    else ⟨.error e, state, [.call .ping]⟩

structure Opening (σ : Type) where
  result : Except Failure Cache
  state : σ
  trace : List Event

def openWith (client : Client σ) (s : Settings) (state : σ) : Opening σ :=
  let (cache, trace) := create s
  if cache.isEnabled then
    let p := probe client s state
    ⟨p.result.map fun _ => cache, p.state, trace ++ p.trace⟩
  else ⟨.ok cache, state, trace⟩

end GatedCache.Cache
