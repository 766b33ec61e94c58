import GatedCache.Cache.Event
import GatedCache.Client

/-!
The cache that callers use. A disabled cache answers as a permanently empty store and touches
nothing. A live cache sends one command for each operation and never repeats it; a fault that the
store reports becomes a failure of the cache's own with the fault as its cause, every other failure
passes as it is. Shutdown releases the connection once, whatever comes of it.
-/
namespace GatedCache

inductive Cache where
  | disabled (defaultTtl : Int)
  | live (defaultTtl : Int) (closed : Bool)
  deriving DecidableEq

namespace Cache

def standardTtl : Int := 3600

def isEnabled : Cache → Bool
  | disabled _ => false
  | live _ _ => true

def defaultTtl : Cache → Int
  | disabled ttl => ttl
  | live ttl _ => ttl

/-- Whether a live cache was shut down; a disabled one has nothing to shut down. -/
def closed? : Cache → Option Bool
  | disabled _ => none
  | live _ closed => some closed

structure Step (σ : Type) where
  result : Outcome
  cache : Cache
  state : σ
  trace : List Event

variable {σ : Type}

def settle (op : Operation) : Outcome → Outcome
  | .ok reply => op.result reply
  | .error e => if e.isStore then .error (.operation op.name op.key? (some e)) else .error e

def observe (op : Operation) : Outcome → List Event
  | .ok _ =>
    [.call op.command, .span (op.span (some .ok))] ++ op.doneRecord?.toList.map Event.log
  | .error e =>
    if e.isStore then
      [.call op.command, .span (op.span (some (.error e.text))), .log (op.failureRecord e)]
    else [.call op.command, .span (op.span none)]

def roundTrip (client : Client σ) (ttl : Int) (state : σ) (op : Operation) : Step σ :=
  let (outcome, state) := client.answer state op.command
  { result := settle op outcome
    cache := live ttl (op == .shutdown)
    state := state
    trace := observe op outcome }

def afterShutdown (op : Operation) : Outcome :=
  if op = .shutdown then .ok .null else .error (Failure.afterShutdown op.name)

def perform (client : Client σ) (cache : Cache) (state : σ) (op : Operation) : Step σ :=
  match cache with
  | disabled _ => ⟨.ok op.emptyResult, cache, state, []⟩
  | live _ true => ⟨afterShutdown op, cache, state, []⟩
  | live ttl false => roundTrip client ttl state op

@[simp] theorem perform_disabled (client : Client σ) (ttl : Int) (state : σ) (op : Operation) :
    perform client (disabled ttl) state op = ⟨.ok op.emptyResult, disabled ttl, state, []⟩ := rfl

@[simp] theorem perform_closed (client : Client σ) (ttl : Int) (state : σ) (op : Operation) :
    perform client (live ttl true) state op = ⟨afterShutdown op, live ttl true, state, []⟩ := rfl

@[simp] theorem perform_open (client : Client σ) (ttl : Int) (state : σ) (op : Operation) :
    perform client (live ttl false) state op = roundTrip client ttl state op := rfl

end Cache
end GatedCache
