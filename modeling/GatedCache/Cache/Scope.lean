import GatedCache.Cache.Opening

/-!
Scopes of a cache. A body runs with a cache that is shut down when the body has ended, however it
ended. The body is arbitrary: a function of the cache and the client's state. There is the cache's
own scope, and one that opens its cache; the latter is written as steps around the body, so no stop
signal comes out of its opening or its shutdown as such.
-/
namespace GatedCache.Cache

variable {σ α : Type}

structure Visit (σ α : Type) where
  ending : Except Failure Unit
  cache : Cache
  state : σ
  output : α

/-- What a scope came to once control has left it. The trace is that of leaving. -/
structure Left (σ α : Type) where
  result : Except Failure Unit
  cache : Cache
  state : σ
  trace : List Event
  output : α

/-- Leaves a scope: a failure of the shutdown takes the place of the body's ending. What comes out in
place of that failure is up to the kind of scope. -/
def leaveBy (escape : Failure → Failure) (client : Client σ) (v : Visit σ α) : Left σ α :=
  let step := perform client v.cache v.state .shutdown
  { result := match step.result with
      | .ok _ => v.ending
      | .error e => .error (escape e)
    cache := step.cache
    state := step.state
    trace := step.trace
    output := v.output }

def leave (client : Client σ) (v : Visit σ α) : Left σ α := leaveBy id client v

def within (client : Client σ) (cache : Cache) (state : σ) (body : Cache → σ → Visit σ α) :
    Left σ α :=
  leave client (body cache state)

/-- What a scope that opens its own cache came to: nothing but the opening's failure, or the
scope. -/
structure Lifespan (σ α : Type) where
  opening : Opening σ
  left : Option (Left σ α)

def enterOpening (client : Client σ) (s : Settings) (state : σ) : Opening σ :=
  let opening := openWith client s state
  { opening with result := opening.result.mapError Failure.outOfScope }

def leaveOpening (client : Client σ) (v : Visit σ α) : Left σ α :=
  leaveBy Failure.outOfScope client v

/-- Opens a cache and runs a body with it; the body does not run if the opening fails. -/
def lifespan (client : Client σ) (s : Settings) (state : σ) (body : Cache → σ → Visit σ α) :
    Lifespan σ α :=
  let opening := enterOpening client s state
  { opening := opening
    left := match opening.result with
      | .ok cache => some (leaveOpening client (body cache opening.state))
      | .error _ => none }

end GatedCache.Cache
