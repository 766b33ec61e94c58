import GatedCache.Connection
import GatedCache.Store.Command

/-!
How often a request is tried. A transient fault is followed by a pause and another try while
retries are left; any other outcome ends the request. Pauses double from 16 milliseconds up to a
limit, and none follows the last try.
-/
namespace GatedCache.Connection

/-- The longest pause, in milliseconds. -/
def longestPause : Nat := 512

def pause (failures : Nat) : Nat := min longestPause (8 * Nat.pow 2 failures)

/-- What happens in the course of a request. -/
inductive Moment where
  | tried (outcome : Outcome)
  | paused (milliseconds : Nat)

structure Request where
  outcome : Outcome
  course : List Moment

namespace Moment

def isTry : Moment → Bool
  | tried _ => true
  | paused _ => false

def pause? : Moment → Option Nat
  | tried _ => none
  | paused milliseconds => some milliseconds

end Moment

def Request.tries (r : Request) : Nat := r.course.countP Moment.isTry

def Request.pauses (r : Request) : List Nat := r.course.filterMap Moment.pause?

/-- Goes on with a request after some failures, with the retries that are left. -/
def attempt (outcomes : Nat → Outcome) : Nat → Nat → Request
  | 0, failures => ⟨outcomes failures, [.tried (outcomes failures)]⟩
  | left + 1, failures =>
    match outcomes failures with
    | .ok reply => ⟨.ok reply, [.tried (.ok reply)]⟩
    | .error e =>
      if e.isTransient then
        let rest := attempt outcomes left (failures + 1)
        { rest with course := .tried (.error e) :: .paused (pause (failures + 1)) :: rest.course }
      else ⟨.error e, [.tried (.error e)]⟩

def request (c : Connection) (outcomes : Nat → Outcome) : Request :=
  attempt outcomes c.retries.toNat 0

end GatedCache.Connection
