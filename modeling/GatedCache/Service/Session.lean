import GatedCache.Service

/-!
Sessions of a service: starts, stops and requests one after the other, with what each shows. The
store is a scripted one; the outcomes laid down for a turn end with it, used or not.
-/
namespace GatedCache.Service

inductive Action where
  | start
  | stop
  | request (r : Request)

structure Turn where
  action : Action
  script : List Outcome

inductive Answer where
  | ended (result : Except Failure Unit)
  | replied (reply : Reply)

structure Report where
  answer : Answer
  trace : List Cache.Event
  lines : List String
  unused : Nat

def Step.report {α : Type} (s : Step Scripted α) (answer : α → Answer) : Report × Service Scripted :=
  (⟨answer s.result, s.trace, s.lines, s.service.state.script.length⟩,
    { s.service with state := s.service.state.drop })

def take (time : String) (a : Service Scripted) (t : Turn) : Report × Service Scripted :=
  let a := { a with state := a.state.load t.script }
  match t.action with
  | .start => (a.start Scripted.client time).report .ended
  | .stop => (a.stop Scripted.client time).report .ended
  | .request r => (a.handle Scripted.client time r).report .replied

def takeAll (time : String) (a : Service Scripted) : List Turn → List Report
  | [] => []
  | t :: ts =>
    let (report, a) := take time a t
    report :: takeAll time a ts

end GatedCache.Service
