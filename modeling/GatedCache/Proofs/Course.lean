import GatedCache.Service.Session

/-!
Courses of a service: starts, stops and requests one after the other, in any order and with any
client. In between anything may happen to the client's state. What a session shows is what such a
course comes to.
-/
namespace GatedCache.Service

variable {σ : Type}

def Step.map {α β : Type} (f : α → β) (s : Step σ α) : Step σ β :=
  ⟨f s.result, s.service, s.trace, s.lines⟩

def act (client : Client σ) (time : String) (a : Service σ) : Action → Step σ Answer
  | .start => (a.start client time).map .ended
  | .stop => (a.stop client time).map .ended
  | .request r => (a.handle client time r).map .replied

inductive Moment (σ : Type) where
  | act (time : String) (action : Action)
  /-- Something else happens to the client's state, such as time passing. -/
  | meanwhile (change : σ → σ)

def course (client : Client σ) (a : Service σ) : List (Moment σ) → List (Step σ Answer)
  | [] => []
  | .act time action :: rest =>
    let step := a.act client time action
    step :: course client step.service rest
  | .meanwhile change :: rest => course client { a with state := change a.state } rest

structure View (σ : Type) where
  answer : Answer
  trace : List Cache.Event
  lines : List String
  cache : Option Cache
  state : σ

def Step.view (s : Step σ Answer) : View σ :=
  ⟨s.result, s.trace, s.lines, s.service.cache, s.service.state⟩

/-- All that can be seen of a service from the settings that it is made with. -/
def serve (client : Client σ) (s : Settings) (state : σ) (moments : List (Moment σ)) :
    Except CreationFault (List (View σ)) :=
  (create s state).map fun a => (course client a moments).map Step.view

/-- The moments of a turn: its outcomes are laid down before it and dropped after it. -/
def Turn.moments (time : String) (t : Turn) : List (Moment Scripted) :=
  [.meanwhile (Scripted.load · t.script), .act time t.action, .meanwhile Scripted.drop]

def Step.shown (s : Step Scripted Answer) : Report :=
  ⟨s.result, s.trace, s.lines, s.service.state.script.length⟩

theorem take_eq_act (time : String) (a : Service Scripted) (t : Turn) :
    take time a t =
      let step := { a with state := a.state.load t.script }.act Scripted.client time t.action
      (step.shown, { step.service with state := step.service.state.drop }) := by
  obtain ⟨action, script⟩ := t
  cases action <;> simp only [take, act, Step.map, Step.report, Step.shown]

theorem takeAll_eq_course (time : String) (a : Service Scripted) (turns : List Turn) :
    takeAll time a turns =
      (course Scripted.client a (turns.flatMap (Turn.moments time))).map Step.shown := by
  induction turns generalizing a with
  | nil => rfl
  | cons t ts ih =>
    simp only [takeAll, take_eq_act, ih, List.flatMap_cons, Turn.moments, List.cons_append,
      List.nil_append, course, List.map_cons]

end GatedCache.Service
