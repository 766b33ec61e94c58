import GatedCache.Cache.Session
import GatedCache.Proofs.Shutdown

/-!
Bodies of scopes as programs. A body performs operations, each next step depending on what came of
the ones before, and ends normally or with a failure; in between anything may happen to the client's
state. What a session does in a scope is such a body. Running one keeps the cache in step with the
commands that were sent.
-/
namespace GatedCache.Cache

variable {σ : Type}

inductive Body (σ : Type) where
  | finish (ending : Except Failure Unit)
  | perform (op : Operation) (next : Outcome → Body σ)
  /-- Something else happens to the client's state, such as time passing. -/
  | meanwhile (change : σ → σ) (next : Body σ)

namespace Body

def run (client : Client σ) : Body σ → Cache → σ → Visit σ (List Event)
  | finish ending, cache, state => ⟨ending, cache, state, []⟩
  | perform op next, cache, state =>
    let step := Cache.perform client cache state op
    let rest := (next step.result).run client step.cache step.state
    { rest with output := step.trace ++ rest.output }
  | meanwhile change next, cache, state => next.run client cache (change state)

/-- An operation that a body performed, with the client's state before it and what came of it. -/
structure Performed (σ : Type) where
  op : Operation
  before : σ
  step : Step σ

def performed (client : Client σ) : Body σ → Cache → σ → List (Performed σ)
  | finish _, _, _ => []
  | perform op next, cache, state =>
    let step := Cache.perform client cache state op
    ⟨op, state, step⟩ :: (next step.result).performed client step.cache step.state
  | meanwhile change next, cache, state => next.performed client cache (change state)

theorem output_run (client : Client σ) (body : Body σ) (cache : Cache) (state : σ) :
    (body.run client cache state).output =
      (body.performed client cache state).flatMap fun p => p.step.trace := by
  induction body generalizing cache state with
  | finish ending => rfl
  | perform op next ih =>
    simp only [run, performed, List.flatMap_cons, ih]
  | meanwhile change next ih => exact ih cache (change state)

theorem accounted_run (client : Client σ) (body : Body σ) (cache : Cache) (state : σ)
    (cs : List Command) (known : Accounted cache cs) :
    Accounted (body.run client cache state).cache
      (cs ++ calls (body.run client cache state).output) := by
  induction body generalizing cache state cs with
  | finish ending => simpa [run] using known
  | perform op next ih =>
    have step := accounted_perform client cache state op cs known
    rw [← cache_perform client cache state op] at step
    simp only [run, calls_append, ← List.append_assoc]
    exact ih _ _ _ _ step
  | meanwhile change next ih => exact ih cache (change state) cs known

theorem isEnabled_run (client : Client σ) (body : Body σ) (cache : Cache) (state : σ) :
    (body.run client cache state).cache.isEnabled = cache.isEnabled := by
  induction body generalizing cache state with
  | finish ending => rfl
  | perform op next ih =>
    simp only [run]
    rw [ih, cache_perform, isEnabled_after]
  | meanwhile change next ih => exact ih cache (change state)

/-- Runs a body with the cache that settings make. -/
def runCreated (client : Client σ) (s : Settings) (state : σ) (body : Body σ) :
    List Event × Visit σ (List Event) :=
  ((create s).2, body.run client (create s).1 state)

/-- Runs a body with the cache that is opened for it; it does not run if the opening fails. -/
def runOpened (client : Client σ) (s : Settings) (state : σ) (body : Body σ) :
    Opening σ × Option (Visit σ (List Event)) :=
  let opening := openWith client s state
  (opening, match opening.result with
    | .ok cache => some (body.run client cache opening.state)
    | .error _ => none)

def ofTurn (t : Turn) (rest : Body Scripted) : Body Scripted :=
  .meanwhile (Scripted.load · t.script) <|
    match t.action with
    | .perform op => .perform op fun _ => .meanwhile Scripted.drop rest
    | .leave => .perform .shutdown fun _ => .meanwhile Scripted.drop rest
    | .advance seconds =>
      .meanwhile (fun s => { s with store := s.store.advance seconds })
        (.meanwhile Scripted.drop rest)
    | .enter | .dump | .describe => .meanwhile Scripted.drop rest

def ofTurns (ending : Except Failure Unit) (closing : List Outcome) : List Turn → Body Scripted
  | [] => .meanwhile (Scripted.load · closing) (.finish ending)
  | t :: ts => ofTurn t (ofTurns ending closing ts)

theorem run_ofTurn (t : Turn) (rest : Body Scripted) (cache : Cache) (s : Scripted) :
    (ofTurn t rest).run Scripted.client cache s =
      { rest.run Scripted.client (Cache.take cache s t).1.cache (Cache.take cache s t).2 with
        output := (Cache.take cache s t).1.trace ++
          (rest.run Scripted.client (Cache.take cache s t).1.cache (Cache.take cache s t).2).output } := by
  obtain ⟨action, script⟩ := t
  cases action <;> rfl

/-- What a session does in a scope is what its body does. -/
theorem visit_eq_run (turns : List Turn) (ending : Except Failure Unit) (closing : List Outcome)
    (cache : Cache) (s : Scripted) :
    { visit turns ending closing cache s with
      output := (visit turns ending closing cache s).output.flatMap Report.trace } =
        (ofTurns ending closing turns).run Scripted.client cache s := by
  induction turns generalizing cache s with
  | nil => rfl
  | cons t ts ih =>
    simp only [ofTurns, run_ofTurn]
    rw [← ih]
    rfl

end Body
end GatedCache.Cache
