import GatedCache.Proofs.Body
import GatedCache.Proofs.Opening

/-!
How a scope ends. Its body ends normally or with a failure, and so does the shutdown on leaving. The
body's ending stands if the shutdown succeeds; else the failure of the shutdown escapes. The cache's
own scope passes that failure as it is. A scope that opens its cache is written as steps, so a stop
signal escapes from it as another failure, of which it is the cause.
-/
namespace GatedCache

namespace Failure

end Failure

namespace Cache

variable {σ α : Type}

/-- What the shutdown on leaving fails with, if it does. Only a live cache that is still open asks
its client to close. -/
def exitFailure? (client : Client σ) (v : Visit σ α) : Option Failure :=
  match v.cache with
  | disabled _ => none
  | live _ true => none
  | live _ false =>
    match (client.answer v.state .close).1 with
    | .ok _ => none
    | .error e => some (closingFailure e)

theorem result_leaveBy (escape : Failure → Failure) (client : Client σ) (v : Visit σ α) :
    (leaveBy escape client v).result = match exitFailure? client v with
      | none => v.ending
      | some f => .error (escape f) := by
  obtain ⟨ending, cache, state, output⟩ := v
  cases cache with
  | disabled ttl => rfl
  | live ttl closed =>
    cases closed with
    | true => rfl
    | false =>
      simp only [leaveBy, exitFailure?, result_perform_open, settle_shutdown, Operation.command]
      cases (client.answer state .close).1 <;> rfl

end Cache
end GatedCache
