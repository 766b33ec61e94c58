import Mathlib.Data.List.Forall2
import GatedCache.Proofs.Bounds
import GatedCache.Service

/-!
A log that is configured again and again, as by several services of one process. The first time gives
it its only handler and its threshold; every time chooses the format anew. So whatever is logged is
written once or not at all, as the first level has it, and later levels count for nothing.
-/
namespace GatedCache.Log

/-- A name that settings accept for a level; letter case is all the same. -/
def Level.Named (level : Level) (name : String) : Prop :=
  Settings.readLevel (.text name) = .ok level

namespace Level

theorem named_iff (level : Level) (name : String) :
    level.Named name ↔ Text.upperCase name = level.name := by
  constructor
  · intro named
    obtain ⟨given, read, same⟩ := Settings.name_of_readLevel named
    cases read
    exact same
  · intro same
    simp only [Named, Settings.readLevel, Settings.readText, same, ofName?_name]

theorem name_ne_patternName (level : Level) : level.name ≠ Setup.patternName := by
  cases level <;> decide

end Level

/-- What may befall the log of a process. -/
inductive Use where
  | configure (name : String) (records : Bool)
  | message (time : String) (m : Message)
  | record (r : Record)

inductive Effect where
  | configured (result : Except SetupFault Unit)
  | logged (lines : Except TemplateFault (List String))
  | written (lines : List String)

namespace Use

/-- A level is given by a name that settings accept. -/
def Accepted : Use → Prop
  | configure name _ => ∃ level : Level, level.Named name
  | _ => True

/-- Whether lines are records, given whether they were: the last configuration decides. -/
def choice (records : Bool) : Use → Bool
  | configure _ chosen => chosen
  | _ => records

end Use

def Format.chosen (records : Bool) : Format :=
  if records then .record else .terminal

def Method.finished (method : Method) (text : String) : String :=
  if method.traced then withTrace text else text

namespace Setup

def use (s : Setup) : Use → Effect × Setup
  | .configure name records => (s.configure (.text name) records).map .configured id
  | .message time m => (s.log time m).map .logged id
  | .record r => (.written (Service.recordLines s [.log r]), s)

def course (s : Setup) : List Use → List Effect × Setup
  | [] => ([], s)
  | u :: us =>
    let rest := course (s.use u).2 us
    ((s.use u).1 :: rest.1, rest.2)

/-- A log with one handler, a threshold, and the format that was chosen last. -/
structure Settled (level : Level) (records : Bool) (s : Setup) : Prop where
  handlers : s.handlers = 1
  threshold : s.threshold = level.rank
  format : s.format = some (.chosen records)

end Setup

/-- A line is written once if its level passes the other one, and else not at all. -/
def once (threshold level : Level) (line : String) : List String :=
  if threshold.rank ≤ level.rank then [line] else []

/-- What a log with a threshold makes of its use. -/
inductive Shows (threshold : Level) : Use → Effect → Prop where
  | configured {name : String} {records : Bool} :
      Shows threshold (.configure name records) (.configured (.ok ()))
  | dropped {time : String} {m : Message} (below : m.method.level.rank < threshold.rank) :
      Shows threshold (.message time m) (.logged (.ok []))
  /-- A logger that was used before may keep an earlier format. -/
  | logged {time : String} {m : Message} {fields : Fields} (format : Format)
      (passes : threshold.rank ≤ m.method.level.rank) (filled : m.fields time = .ok fields) :
      Shows threshold (.message time m)
        (.logged (.ok [m.method.finished (format.line fields)]))
  | unfit {time : String} {m : Message} {fault : TemplateFault}
      (passes : threshold.rank ≤ m.method.level.rank) (unfilled : m.fields time = .error fault) :
      Shows threshold (.message time m) (.logged (.error fault))
  | written {r : Record} : Shows threshold (.record r) (.written (once threshold r.level r.message))

namespace Setup

variable {s : Setup} {level : Level} {records : Bool}

theorem configure_of_named {name : String} (named : level.Named name) (s : Setup) (chosen : Bool) :
    s.configure (.text name) chosen = (.ok (), (s.choose chosen).install level.rank) := by
  rw [Level.named_iff] at named
  simp only [configure, setLevel, named, level.name_ne_patternName, if_false,
    Level.rankOfName?_name]

theorem settled_of_bare (bare : s.handlers = 0) (level : Level) (records : Bool) :
    Settled level records ((s.choose records).install level.rank) := by
  simp only [install, choose, bare, if_true]
  exact ⟨rfl, rfl, rfl⟩

namespace Settled

/-- Once there is a handler, configuring the log again only chooses the format. -/
theorem choose (settled : Settled level records s) (chosen : Bool) (rank : Nat) :
    Settled level chosen ((s.choose chosen).install rank) := by
  simp only [install, Setup.choose, settled.handlers, Nat.one_ne_zero, if_false]
  exact ⟨rfl, settled.threshold, rfl⟩

theorem emit (settled : Settled level records s) (l : Level) (line : String) :
    s.emit l line = once level l line := by
  simp [Setup.emit, passes, settled.handlers, settled.threshold, once]

theorem keep (settled : Settled level records s) (logger : String) (f : Format) :
    Settled level records (s.keep logger f) := by
  unfold Setup.keep
  split
  · exact settled
  · exact ⟨settled.handlers, settled.threshold, settled.format⟩

theorem recordLines (settled : Settled level records s) (r : Record) :
    Service.recordLines s [.log r] = once level r.level r.message := by
  simp only [Service.recordLines, Cache.logs, Cache.Event.log?, List.filterMap_cons,
    List.filterMap_nil, List.flatMap_cons, List.flatMap_nil, List.append_nil, plain,
    Bool.false_eq_true, if_false, settled.emit]

theorem plain (settled : Settled level records s) (method : Method) (text : String) :
    s.plain method text = once level method.level (method.finished text) :=
  settled.emit method.level (method.finished text)

theorem formatOf (settled : Settled level records s) (logger : String) :
    ∃ f, s.formatOf logger = some f := by
  cases kept : s.kept.lookup logger with
  | none => exact ⟨.chosen records, by simp [Setup.formatOf, kept, settled.format]⟩
  | some f => exact ⟨f, by simp [Setup.formatOf, kept]⟩

theorem linesIn (settled : Settled level records s) (time : String) (f : Format) (m : Message) :
    Shows level (.message time m) (.logged (s.linesIn time f m)) := by
  by_cases passing : level.rank ≤ m.method.level.rank
  · have passes : s.passes m.method.level = true := by simp [passes, settled.threshold, passing]
    cases filled : m.fields time with
    | ok fields =>
      simp only [Setup.linesIn, passes, if_true, filled, Except.map, settled.plain, once, passing]
      exact .logged f passing filled
    | error fault =>
      simp only [Setup.linesIn, passes, if_true, filled, Except.map]
      exact .unfit passing filled
  · have stopped : s.passes m.method.level = false := by simp [passes, settled.threshold, passing]
    simp only [Setup.linesIn, stopped, Bool.false_eq_true, if_false]
    exact .dropped (Nat.lt_of_not_le passing)

theorem log (settled : Settled level records s) (time : String) (m : Message) :
    Shows level (.message time m) (.logged (s.log time m).1) ∧
      Settled level records (s.log time m).2 := by
  obtain ⟨f, known⟩ := settled.formatOf m.logger
  simp only [Setup.log, known]
  refine ⟨settled.linesIn time f m, ?_⟩
  split
  · exact settled.keep m.logger f
  · exact settled

/-- One use of a settled log leaves it settled, and shows as it must. -/
theorem use (settled : Settled level records s) {u : Use} (accepted : u.Accepted) :
    Shows level u (s.use u).1 ∧ Settled level (u.choice records) (s.use u).2 := by
  cases u with
  | configure name chosen =>
    obtain ⟨other, named⟩ := accepted
    simp only [Setup.use, configure_of_named named, Prod.map, id]
    exact ⟨.configured, settled.choose chosen other.rank⟩
  | message time m => exact settled.log time m
  | record r =>
    simp only [Setup.use, settled.recordLines]
    exact ⟨.written, settled⟩

theorem course (settled : Settled level records s) {us : List Use}
    (accepted : ∀ u ∈ us, u.Accepted) :
    List.Forall₂ (Shows level) us (s.course us).1 ∧
      Settled level (us.foldl Use.choice records) (s.course us).2 := by
  induction us generalizing s records with
  | nil => exact ⟨.nil, settled⟩
  | cons u us ih =>
    obtain ⟨first, others⟩ := List.forall_mem_cons.mp accepted
    obtain ⟨shown, left⟩ := settled.use first
    obtain ⟨rest, last⟩ := ih left others
    exact ⟨.cons shown rest, last⟩

end Settled

/-- The first configuration of a log without a handler settles it for good. Whatever follows, further
configurations, messages of the application and records of the service, there is one handler, and
what is logged is written once if its level passes the first one, and else not at all. Only the format
is that of the last configuration. -/
theorem first_configuration_settles (s : Setup) (bare : s.handlers = 0) (name : String)
    (level : Level) (named : level.Named name) (records : Bool) (us : List Use)
    (accepted : ∀ u ∈ us, u.Accepted) :
    List.Forall₂ (Shows level) (.configure name records :: us)
        (s.course (.configure name records :: us)).1 ∧
      Settled level (us.foldl Use.choice records) (s.course (.configure name records :: us)).2 := by
  have first := settled_of_bare bare level records
  obtain ⟨shown, left⟩ := first.course accepted
  simp only [course, use, configure_of_named named, Prod.map, id]
  exact ⟨.cons .configured shown, left⟩

def refused : Failure := .store .connection "refused"

def secondConfiguration : List Use :=
  [.record (Cache.Operation.flush.failureRecord refused), .configure "debug" false,
    .record (Cache.Operation.flush.failureRecord refused), .record (Service.failedRecord refused)]

/-- A lower level given later lets nothing more pass, although the format is the later one. -/
theorem later_level_lets_nothing_pass :
    (Level.error.Named "Error" ∧ ∀ u ∈ secondConfiguration, u.Accepted) ∧
      (fresh.course (.configure "Error" true :: secondConfiguration)).1 =
        [.configured (.ok ()), .written [], .configured (.ok ()), .written [],
          .written ["Cache health check failed: refused"]] ∧
      List.Forall₂ (Shows .error) (.configure "Error" true :: secondConfiguration)
        (fresh.course (.configure "Error" true :: secondConfiguration)).1 ∧
      Settled .error false (fresh.course (.configure "Error" true :: secondConfiguration)).2 := by
  have named : Level.error.Named "Error" := rfl
  have accepted : ∀ u ∈ secondConfiguration, u.Accepted := by
    simp only [secondConfiguration, List.forall_mem_cons]
    exact ⟨trivial, ⟨.debug, rfl⟩, trivial, trivial, List.forall_mem_nil _⟩
  refine ⟨⟨named, accepted⟩, rfl, ?_⟩
  exact first_configuration_settles .fresh rfl "Error" .error named true secondConfiguration accepted

end Setup
end GatedCache.Log
