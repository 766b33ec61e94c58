import Mathlib.Algebra.Order.Field.Basic
import Mathlib.Algebra.Order.Field.Rat
import Mathlib.Tactic.IntervalCases
import Mathlib.Tactic.Linarith
import Mathlib.Tactic.NormNum
import Mathlib.Tactic.Ring
import GatedCache.Connection.Retry
import GatedCache.Proofs.Bounds

/-!
How often a request is tried. The course of a request is known from the number of its tries: the
outcomes in turn, with one pause between any two. That number is the position of the first outcome
that settles the request, or the greatest number of attempts if that is less. So the pauses of a
connection that was made from accepted settings never decrease, and their sum is bounded.
-/
namespace GatedCache

namespace StoreFault

/-- The kind right above a kind of fault. Nothing is above the most general one. -/
def above? : StoreFault → Option StoreFault
  | general => none
  | authentication | authorization | busyLoading | maxConnections => some connection
  | noScript | outOfMemory | readOnly | noPermission => some response
  | named _ above => some above
  | _ => some general

inductive IsA : StoreFault → StoreFault → Prop where
  | self (f : StoreFault) : IsA f f
  | under {f g h : StoreFault} (above : f.above? = some g) (rest : IsA g h) : IsA f h

theorem isTransient_of_above {f g : StoreFault} (above : f.above? = some g)
    (transient : g.isTransient = true) : f.isTransient = true := by
  cases f with
  | authentication | authorization | busyLoading | maxConnections => rfl
  | connection | timeout => rfl
  | general => cases above
  | named name kind =>
    cases Option.some.inj above
    exact transient
  | _ =>
    cases Option.some.inj above
    cases transient

theorem isTransient_of_isA {f g : StoreFault} (isA : f.IsA g) (transient : g.isTransient = true) :
    f.isTransient = true := by
  induction isA with
  | self => exact transient
  | under above _ ih => exact isTransient_of_above above (ih transient)

theorem isTransient_iff (f : StoreFault) :
    f.isTransient = true ↔ ∃ g ∈ Connection.retriedFaults, f.IsA g := by
  constructor
  · intro transient
    induction f with
    | connection => exact ⟨connection, by decide, .self _⟩
    | timeout => exact ⟨timeout, by decide, .self _⟩
    | authentication | authorization | busyLoading | maxConnections =>
      exact ⟨connection, by decide, .under rfl (.self _)⟩
    | named name kind ih =>
      obtain ⟨g, listed, isA⟩ := ih transient
      exact ⟨g, listed, .under rfl isA⟩
    | _ => cases transient
  · rintro ⟨g, listed, isA⟩
    refine isTransient_of_isA isA ?_
    rcases List.mem_cons.mp listed with rfl | rest
    · rfl
    · cases List.mem_singleton.mp rest
      rfl

end StoreFault

namespace Connection

/-- An outcome after which a request is tried again: a fault of the store, of a kind that is listed
for it. -/
def Passing (o : Outcome) : Prop :=
  ∃ fault text, o = .error (.store fault text) ∧ ∃ kind ∈ retriedFaults, fault.IsA kind

theorem passing_error_iff (e : Failure) : Passing (.error e) ↔ e.isTransient = true := by
  cases e with
  | store fault text =>
    simp only [Failure.isTransient, StoreFault.isTransient_iff]
    constructor
    · rintro ⟨_, _, same, kind⟩
      cases same
      exact kind
    · intro kind
      exact ⟨fault, text, rfl, kind⟩
  | _ =>
    constructor
    · rintro ⟨_, _, same, _⟩
      cases same
    · intro impossible
      cases impossible

theorem not_passing_ok (reply : Value) : ¬ Passing (.ok reply) := by
  rintro ⟨_, _, same, _⟩
  cases same

-- A fault of the system settles a request, even if a fault of the store has its name.
example (fault : SystemFault) (text : String) : ¬ Passing (.error (.system fault text)) := by
  rw [passing_error_iff]
  exact Bool.false_ne_true

/-- So many tries that are each followed by a pause, from one on, and then one more. -/
def courseFrom (outcomes : Nat → Outcome) (first failures : Nat) : List Moment :=
  (List.range failures).flatMap (fun n =>
      [.tried (outcomes (first + n)), .paused (pause (first + n + 1))]) ++
    [.tried (outcomes (first + failures))]

theorem courseFrom_succ (outcomes : Nat → Outcome) (first failures : Nat) :
    courseFrom outcomes first (failures + 1) =
      .tried (outcomes first) :: .paused (pause (first + 1)) ::
        courseFrom outcomes (first + 1) failures := by
  simp only [courseFrom, List.range_succ_eq_map, List.flatMap_cons, List.flatMap_map,
    Nat.succ_eq_add_one, Nat.add_zero, ← Nat.add_assoc, Nat.add_right_comm first 1,
    List.cons_append, List.nil_append]

theorem countP_courseFrom (outcomes : Nat → Outcome) (first failures : Nat) :
    (courseFrom outcomes first failures).countP Moment.isTry = failures + 1 := by
  induction failures generalizing first with
  | zero => rfl
  | succ failures ih =>
    rw [courseFrom_succ, List.countP_cons_of_pos rfl, List.countP_cons_of_neg Bool.false_ne_true, ih]

theorem pauses_courseFrom (outcomes : Nat → Outcome) (first failures : Nat) :
    (courseFrom outcomes first failures).filterMap Moment.pause? =
      (List.range failures).map fun n => pause (first + n + 1) := by
  induction failures generalizing first with
  | zero => rfl
  | succ failures ih =>
    have paused : Moment.pause? (.paused (pause (first + 1))) = some (pause (first + 1)) := rfl
    rw [courseFrom_succ, List.filterMap_cons_none rfl, List.filterMap_cons_some paused, ih,
      List.range_succ_eq_map, List.map_cons, List.map_map]
    simp only [Function.comp_def, Nat.succ_eq_add_one, Nat.add_zero, ← Nat.add_assoc,
      Nat.add_right_comm first 1]

/-- A request that failed so often, from one try on, before the try that ended it. -/
structure Ended (outcomes : Nat → Outcome) (left first failures : Nat) (r : Request) : Prop where
  within : failures ≤ left
  outcome : r.outcome = outcomes (first + failures)
  course : r.course = courseFrom outcomes first failures
  passed : ∀ n < failures, Passing (outcomes (first + n))
  settled : failures < left → ¬ Passing (outcomes (first + failures))

theorem ended_at_once {outcomes : Nat → Outcome} {left first : Nat}
    (settled : 0 < left → ¬ Passing (outcomes first)) :
    Ended outcomes left first 0 ⟨outcomes first, [.tried (outcomes first)]⟩ where
  within := Nat.zero_le left
  outcome := rfl
  course := rfl
  passed n before := absurd before (Nat.not_lt_zero n)
  settled := settled

theorem Ended.after_failure {outcomes : Nat → Outcome} {left first failures : Nat} {r : Request}
    (ended : Ended outcomes left (first + 1) failures r) (passing : Passing (outcomes first)) :
    Ended outcomes (left + 1) first (failures + 1)
      { r with course := .tried (outcomes first) :: .paused (pause (first + 1)) :: r.course } := by
  constructor
  · exact Nat.succ_le_succ ended.within
  · exact ended.outcome.trans (congrArg outcomes (Nat.succ_add_eq_add_succ first failures))
  · rw [courseFrom_succ, ← ended.course]
  · intro n before
    cases n with
    | zero => exact passing
    | succ n =>
      rw [← Nat.succ_add_eq_add_succ]
      exact ended.passed n (Nat.lt_of_succ_lt_succ before)
  · intro more
    rw [← Nat.succ_add_eq_add_succ]
    exact ended.settled (Nat.lt_of_succ_lt_succ more)

theorem attempt_ended (outcomes : Nat → Outcome) (left first : Nat) :
    ∃ failures, Ended outcomes left first failures (attempt outcomes left first) := by
  -- The retries that are left go down and the failures before go up, so the first try is generalised.
  induction left generalizing first with
  | zero => exact ⟨0, ended_at_once fun more => absurd more (Nat.lt_irrefl 0)⟩
  | succ left ih =>
    cases tried : outcomes first with
    | ok reply =>
      refine ⟨0, ?_⟩
      simp only [attempt, tried]
      rw [← tried]
      exact ended_at_once fun _ => by rw [tried]; exact not_passing_ok reply
    | error e =>
      by_cases transient : e.isTransient = true
      · obtain ⟨failures, ended⟩ := ih (first + 1)
        refine ⟨failures + 1, ?_⟩
        simp only [attempt, tried, transient, if_true]
        rw [← tried]
        exact ended.after_failure (by rw [tried, passing_error_iff]; exact transient)
      · refine ⟨0, ?_⟩
        simp only [attempt, tried, transient, Bool.false_eq_true, if_false]
        rw [← tried]
        exact ended_at_once fun _ => by rw [tried, passing_error_iff]; exact transient

/-- The position, counted from one, of the first outcome that settles a request. -/
structure FirstSettled (outcomes : Nat → Outcome) (position : Nat) : Prop where
  counted : 1 ≤ position
  before : ∀ n, n + 1 < position → Passing (outcomes n)
  settled : ¬ Passing (outcomes (position - 1))

theorem Ended.tries_of_firstSettled {outcomes : Nat → Outcome} {left failures position : Nat}
    {r : Request} (ended : Ended outcomes left 0 failures r)
    (first : FirstSettled outcomes position) : failures + 1 = min (left + 1) position := by
  have reached : failures + 1 ≤ position := by
    by_contra beyond
    have passed := ended.passed (position - 1) (by have := first.counted; omega)
    rw [Nat.zero_add] at passed
    exact first.settled passed
  have stopped : failures = left ∨ failures + 1 = position := by
    by_contra neither
    have settled := ended.settled (by have := ended.within; omega)
    rw [Nat.zero_add] at settled
    exact settled (first.before failures (by omega))
  have := ended.within
  omega

theorem Ended.tries_of_unsettled {outcomes : Nat → Outcome} {left failures : Nat} {r : Request}
    (ended : Ended outcomes left 0 failures r) (unsettled : ∀ n, Passing (outcomes n)) :
    failures = left := by
  by_contra other
  exact ended.settled (by have := ended.within; omega) (unsettled _)

theorem pause_le {earlier later : Nat} (order : earlier ≤ later) : pause earlier ≤ pause later := by
  have power : 2 ^ earlier ≤ 2 ^ later := Nat.pow_le_pow_right (by decide) order
  have product : 8 * 2 ^ earlier ≤ 8 * 2 ^ later := Nat.mul_le_mul_left 8 power
  exact le_min (Nat.min_le_left _ _) (le_trans (Nat.min_le_right _ _) product)

/-- Milliseconds as seconds. -/
def seconds (milliseconds : Nat) : ℚ := milliseconds / 1000

theorem seconds_le {a b : Nat} (order : a ≤ b) : seconds a ≤ seconds b := by
  have cast : (a : ℚ) ≤ b := Nat.cast_le.mpr order
  unfold seconds
  linarith

theorem seconds_pause (failures : Nat) :
    seconds (pause failures) = min 0.512 (0.008 * 2 ^ failures) := by
  have thousand : (0 : ℚ) ≤ 1000 := by norm_num
  have longest : (512 : ℚ) / 1000 = 0.512 := by norm_num
  have doubled : (8 * 2 ^ failures : ℚ) / 1000 = 0.008 * 2 ^ failures := by ring
  simp only [seconds, pause, longestPause, Nat.pow_eq, Nat.cast_min, Nat.cast_mul, Nat.cast_pow,
    Nat.cast_ofNat, ← min_div_div_right thousand, longest, doubled]

theorem sum_seconds (pauses : List Nat) : (pauses.map seconds).sum = seconds pauses.sum := by
  induction pauses with
  | nil => simp [seconds]
  | cons p ps ih =>
    simp only [List.map_cons, List.sum_cons, ih, seconds, Nat.cast_add]
    ring

theorem sum_pauses_le {failures : Nat} (few : failures ≤ 9) :
    ((List.range failures).map fun n => pause (n + 1)).sum ≤ 2544 := by
  interval_cases failures <;> decide

/-- A request that makes at most so many tries, and how it pauses. -/
structure TriesAtMost (most : Int) (outcomes : Nat → Outcome) (r : Request) : Prop where
  tries : ∀ position, FirstSettled outcomes position → (r.tries : Int) = min most position
  unsettled : (∀ n, Passing (outcomes n)) → (r.tries : Int) = most
  outcome : r.outcome = outcomes (r.tries - 1)
  course : r.course = (List.range (r.tries - 1)).flatMap (fun n =>
      [.tried (outcomes n), .paused (pause (n + 1))]) ++ [.tried (outcomes (r.tries - 1))]
  pauses : r.pauses.map seconds =
    (List.range (r.tries - 1)).map fun n => min 0.512 (0.008 * 2 ^ (n + 1))
  rising : (r.pauses.map seconds).Pairwise (· ≤ ·)
  total : (r.pauses.map seconds).sum ≤ 2.544

theorem Ended.triesAtMost {outcomes : Nat → Outcome} {left failures : Nat} {r : Request}
    (ended : Ended outcomes left 0 failures r) (few : left ≤ 9) :
    TriesAtMost (left + 1) outcomes r := by
  have count : r.tries = failures + 1 := by
    rw [Request.tries, ended.course, countP_courseFrom]
  have between : r.pauses = (List.range failures).map fun n => pause (n + 1) := by
    simp only [Request.pauses, ended.course, pauses_courseFrom, Nat.zero_add]
  constructor
  · intro position first
    have := ended.tries_of_firstSettled first
    omega
  · intro unsettled
    have := ended.tries_of_unsettled unsettled
    omega
  · rw [count, ended.outcome, Nat.zero_add, Nat.add_sub_cancel]
  · simp only [count, ended.course, courseFrom, Nat.zero_add, Nat.add_sub_cancel]
  · simp only [count, between, List.map_map, Function.comp_def, seconds_pause, Nat.add_sub_cancel]
  · rw [between, List.map_map, List.pairwise_map]
    refine List.pairwise_lt_range.imp fun {earlier later} order => ?_
    exact seconds_le (pause_le (by omega))
  · rw [sum_seconds, between]
    have bound := seconds_le (sum_pauses_le (le_trans ended.within few))
    refine le_trans bound ?_
    norm_num [seconds]

end Connection

namespace Settings

/-- Whatever the settings that were accepted and whatever the tries come to: a request over the
connection that they make is tried at most as often as they say. -/
theorem requests_are_tried_at_most (s : Sources) (x : Settings) (loaded : load s = .ok x)
    (outcomes : Nat → Outcome) :
    Connection.TriesAtMost x.redisMaxAttempts outcomes
      ((Connection.ofSettings x).request outcomes) := by
  obtain ⟨least, greatest⟩ := (withinBounds_of_load loaded).attempts
  obtain ⟨failures, ended⟩ :=
    Connection.attempt_ended outcomes (Connection.ofSettings x).retries.toNat 0
  have most : ((Connection.ofSettings x).retries.toNat : Int) + 1 = x.redisMaxAttempts := by
    simp only [Connection.ofSettings]
    omega
  have few : (Connection.ofSettings x).retries.toNat ≤ 9 := by omega
  rw [← most]
  exact ended.triesAtMost few

def fourAttempts : Sources := ⟨[("REDIS_ENABLED", .bool true)], [("REDIS_MAX_ATTEMPTS", "4")], none⟩

def refusedAtLast : Nat → Outcome
  | 0 => .error (.store .busyLoading "loading")
  | 1 => .error (.store .timeout "slow")
  | _ => .error (.system .connection "refused")

theorem firstSettled_refusedAtLast : Connection.FirstSettled refusedAtLast 3 where
  counted := by decide
  before n early := by
    have faults : n = 0 ∨ n = 1 := by omega
    rcases faults with rfl | rfl
    · exact (Connection.passing_error_iff _).mpr rfl
    · exact (Connection.passing_error_iff _).mpr rfl
  settled passing := Bool.false_ne_true ((Connection.passing_error_iff _).mp passing)

/-- A store that is loading and a store that is slow are tried again; a system that refuses the
connection is not, although attempts are left. -/
theorem third_try_is_the_last :
    load fourAttempts = .ok { switchedOn with redisMaxAttempts := 4 } ∧
      ((Connection.ofSettings { switchedOn with redisMaxAttempts := 4 }).request
        refusedAtLast).tries = 3 ∧
      ((Connection.ofSettings { switchedOn with redisMaxAttempts := 4 }).request
        refusedAtLast).outcome = .error (.system .connection "refused") ∧
      ((Connection.ofSettings { switchedOn with redisMaxAttempts := 4 }).request
        refusedAtLast).pauses.map Connection.seconds = [0.016, 0.032] := by
  have loaded : load fourAttempts = .ok { switchedOn with redisMaxAttempts := 4 } := rfl
  have bounded := requests_are_tried_at_most _ _ loaded refusedAtLast
  have count : ((Connection.ofSettings { switchedOn with redisMaxAttempts := 4 }).request
      refusedAtLast).tries = 3 := Int.ofNat_inj.mp (bounded.tries 3 firstSettled_refusedAtLast)
  refine ⟨loaded, count, ?_, ?_⟩
  · rw [bounded.outcome, count]
    rfl
  · rw [bounded.pauses, count]
    norm_num [List.range_succ]

end Settings
end GatedCache
