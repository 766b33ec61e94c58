import GatedCache.Cache.Scope

/-!
Sessions: what a caller does with a cache one turn after the other, and what each turn shows. The
store is a scripted one; the outcomes laid down for a turn end with it, used or not.
-/
namespace GatedCache.Cache

inductive Action where
  | perform (op : Operation)
  /-- Enters the cache's own scope, which gives the cache. -/
  | enter
  /-- Leaves the cache's own scope normally. -/
  | leave
  | advance (seconds : Int)
  | dump
  | describe

structure Turn where
  action : Action
  script : List Outcome

inductive Answer where
  | outcome (result : Outcome)
  | entered
  | time (now : Int)
  | contents (entries : List (String × Entry))
  | described

structure Report where
  answer : Answer
  cache : Cache
  trace : List Event
  unused : Nat

def Step.report (s : Step Scripted) : Report × Scripted :=
  (⟨.outcome s.result, s.cache, s.trace, s.state.script.length⟩, s.state.drop)

def quietReport (cache : Cache) (answer : Answer) (s : Scripted) : Report × Scripted :=
  (⟨answer, cache, [], s.script.length⟩, s.drop)

def take (cache : Cache) (before : Scripted) (t : Turn) : Report × Scripted :=
  let s := before.load t.script
  match t.action with
  | .perform op => (perform Scripted.client cache s op).report
  | .leave => (perform Scripted.client cache s .shutdown).report
  | .enter => quietReport cache .entered s
  | .advance seconds =>
    let store := s.store.advance seconds
    quietReport cache (.time store.now) { s with store := store }
  | .dump => quietReport cache (.contents s.store.toList) s
  | .describe => quietReport cache .described s

def takeAll (cache : Cache) (s : Scripted) : List Turn → List Report × Cache × Scripted
  | [] => ([], cache, s)
  | t :: ts =>
    let (report, s) := take cache s t
    let (reports, last) := takeAll report.cache s ts
    (report :: reports, last)

/-- The body of a scope that takes turns and then ends as given; the outcomes for leaving the scope
are laid down at its end. -/
def visit (turns : List Turn) (ending : Except Failure Unit) (closing : List Outcome)
    (cache : Cache) (s : Scripted) : Visit Scripted (List Report) :=
  let (reports, cache, s) := takeAll cache s turns
  ⟨ending, cache, s.load closing, reports⟩

end GatedCache.Cache
