import GatedCache.Cache.Session
import GatedCache.Proofs.RoundTrip

/-!
Calls that fail leave no trace. The store of a cache that is in use is a scripted one: any call may
come to an outcome that was laid down for it, and time passes in between. A call that fails, for
whatever reason, leaves the cache and the store as they were; so a whole run is the same without the
calls that fail and without the outcomes that were laid down for them.
-/
namespace GatedCache

theorem Store.answer_of_refusal (s : Store) (c : Command) {e : Failure}
    (refused : (s.answer c).1 = .error e) : (s.answer c).2 = s := by
  cases c with
  | setFor key seconds value =>
    by_cases far : seconds ≤ 0 ∨ longestExpiry < seconds
    · simp only [answer, far, if_true]
    · simp only [answer, far, if_false] at refused
      cases refused
  | expire key seconds =>
    by_cases far : longestExpiry < seconds.natAbs
    · simp only [answer, far, if_true]
    · simp only [answer, far, if_false] at refused
      split at refused <;> cases refused
  | ttl key =>
    simp only [answer] at refused
    split at refused <;> cases refused
  | _ => cases refused

theorem Store.answer_ttl_unchanged (s : Store) (key : String) : (s.answer (.ttl key)).2 = s := by
  simp only [answer]
  split <;> rfl

namespace Cache

/-- An operation fails because its call did, or because the reply to a question for the time left is
none that could be understood. -/
theorem failed_of_settle {op : Operation} {o : Outcome} {e : Failure}
    (failed : settle op o = .error e) : (∃ f, o = .error f) ∨ ∃ key, op = .ttl key := by
  cases o with
  | error f => exact .inl ⟨f, rfl⟩
  | ok reply =>
    cases op with
    | ttl key => exact .inr ⟨key, rfl⟩
    | _ => cases failed

theorem store_of_failure (s : Store) (op : Operation) {e : Failure}
    (failed : settle op (s.answer op.command).1 = .error e) : (s.answer op.command).2 = s := by
  rcases failed_of_settle failed with ⟨f, refused⟩ | ⟨key, rfl⟩
  · exact s.answer_of_refusal op.command refused
  · exact s.answer_ttl_unchanged key

/-- A call left the cache and the store as they were. An outcome that was laid down for it is used
up. -/
structure Traceless (cache : Cache) (s : Scripted) (step : Step Scripted) : Prop where
  cache : step.cache = cache
  store : step.state.store = s.store
  script : step.state.script = s.script.drop 1

section InUse

variable (ttl : Int) (s : Scripted) {op : Operation}

theorem stays_open (stays : op ≠ .shutdown) :
    (perform Scripted.client (live ttl false) s op).cache = live ttl false := by
  rw [cache_perform]
  simp [after, stays]

theorem script_perform :
    (perform Scripted.client (live ttl false) s op).state.script = s.script.drop 1 := by
  obtain ⟨store, script⟩ := s
  cases script <;> rfl

theorem traceless_of_failure (stays : op ≠ .shutdown) {e : Failure}
    (failed : (perform Scripted.client (live ttl false) s op).result = .error e) :
    Traceless (live ttl false) s (perform Scripted.client (live ttl false) s op) := by
  refine ⟨stays_open ttl s stays, ?_, script_perform ttl s⟩
  rw [result_perform_open] at failed
  obtain ⟨store, script⟩ := s
  cases script with
  | nil => exact store_of_failure store op failed
  | cons o rest => rfl

end InUse

/-- What happens around a cache: a call, time passing, and outcomes being laid down in place of those
that are left. -/
inductive Deed where
  | call (op : Operation)
  | advance (seconds : Int)
  | lay (script : List Outcome)

structure Seen where
  result : Outcome
  trace : List Event

def Seen.succeeded (c : Seen) : Bool := c.result.isOk

def Step.seen {σ : Type} (step : Step σ) : Seen := ⟨step.result, step.trace⟩

def run (cache : Cache) (s : Scripted) : List Deed → List Seen × Cache × Scripted
  | [] => ([], cache, s)
  | .call op :: rest =>
    let step := perform Scripted.client cache s op
    let (seen, last) := run step.cache step.state rest
    (step.seen :: seen, last)
  | .advance seconds :: rest => run cache { s with store := s.store.advance seconds } rest
  | .lay script :: rest => run cache (s.load script) rest

def usedUp (before after : Scripted) : List Outcome :=
  before.script.take (before.script.length - after.script.length)

/-- What is left of a run without the calls that fail in it and without the outcomes that these use
up: the outcomes laid down at its beginning, and the deeds. -/
def prune (cache : Cache) (s : Scripted) : List Deed → List Outcome × List Deed
  | [] => (s.script, [])
  | .call op :: rest =>
    let step := perform Scripted.client cache s op
    let (script, deeds) := prune step.cache step.state rest
    if step.seen.succeeded then (usedUp s step.state ++ script, .call op :: deeds)
    else (script, deeds)
  | .advance seconds :: rest =>
    let (script, deeds) := prune cache { s with store := s.store.advance seconds } rest
    (script, .advance seconds :: deeds)
  | .lay later :: rest =>
    let (script, deeds) := prune cache (s.load later) rest
    (s.script, .lay script :: deeds)

def InUse (deeds : List Deed) : Prop := .call .shutdown ∉ deeds

section Pruning

variable (ttl : Int)

theorem usedUp_perform (s : Scripted) (op : Operation) :
    usedUp s (perform Scripted.client (live ttl false) s op).state = s.script.take 1 := by
  rw [usedUp, script_perform]
  cases s.script with
  | nil => rfl
  | cons o rest =>
    have used : (o :: rest).length - rest.length = 1 := by simp
    rw [List.drop_one, List.tail_cons, used]

theorem perform_replayed (s : Scripted) (op : Operation) (later : List Outcome)
    (fits : later.Sublist (perform Scripted.client (live ttl false) s op).state.script) :
    perform Scripted.client (live ttl false)
        (s.load (usedUp s (perform Scripted.client (live ttl false) s op).state ++ later)) op =
      { perform Scripted.client (live ttl false) s op with
        state := (perform Scripted.client (live ttl false) s op).state.load later } := by
  rw [usedUp_perform]
  obtain ⟨store, script⟩ := s
  cases script with
  | nil =>
    -- The store itself answers here, and an outcome added for later would answer in its place.
    rw [script_perform, List.drop_nil, List.sublist_nil] at fits
    subst fits
    rfl
  | cons o rest => rfl

theorem stays_of_inUse {op : Operation} {rest : List Deed} (inUse : InUse (.call op :: rest)) :
    op ≠ .shutdown := by
  rintro rfl
  exact inUse List.mem_cons_self

theorem inUse_tail {deed : Deed} {rest : List Deed} (inUse : InUse (deed :: rest)) : InUse rest :=
  fun shut => inUse (List.mem_cons_of_mem deed shut)

theorem prune_sublist (s : Scripted) (deeds : List Deed) (inUse : InUse deeds) :
    (prune (live ttl false) s deeds).1.Sublist s.script := by
  induction deeds generalizing s with
  | nil => exact .refl _
  | cons deed rest ih =>
    have kept := inUse_tail inUse
    cases deed with
    | call op =>
      have later := ih (perform Scripted.client (live ttl false) s op).state kept
      rw [script_perform] at later
      simp only [prune, stays_open ttl s (stays_of_inUse inUse), usedUp_perform]
      split
      · have both := (List.Sublist.refl (s.script.take 1)).append later
        rwa [List.take_append_drop] at both
      · exact later.trans (List.drop_sublist 1 _)
    | advance seconds => exact ih { s with store := s.store.advance seconds } kept
    | lay script => exact .refl _

theorem run_prune (s : Scripted) (deeds : List Deed) (inUse : InUse deeds) :
    run (live ttl false) (s.load (prune (live ttl false) s deeds).1)
        (prune (live ttl false) s deeds).2 =
      ((run (live ttl false) s deeds).1.filter Seen.succeeded,
        (run (live ttl false) s deeds).2) := by
  induction deeds generalizing s with
  | nil => rfl
  | cons deed rest ih =>
    have kept := inUse_tail inUse
    cases deed with
    | call op =>
      have stays := stays_of_inUse inUse
      have later := ih (perform Scripted.client (live ttl false) s op).state kept
      cases result : (perform Scripted.client (live ttl false) s op).result with
      | ok reply =>
        have done : (perform Scripted.client (live ttl false) s op).seen.succeeded = true := by
          simp only [Seen.succeeded, Step.seen, result]
          rfl
        have fits := prune_sublist ttl (perform Scripted.client (live ttl false) s op).state rest kept
        simp only [prune, stays_open ttl s stays, done, if_true, run,
          perform_replayed ttl s op _ fits, later, List.filter_cons]
        rfl
      | error e =>
        have failed : (perform Scripted.client (live ttl false) s op).seen.succeeded = false := by
          simp only [Seen.succeeded, Step.seen, result]
          rfl
        -- Nothing but the script differs before the rest of the run, and that is laid down anew.
        have untouched := (traceless_of_failure ttl s stays result).store
        have same : (perform Scripted.client (live ttl false) s op).state.load = s.load := by
          funext script
          simp only [Scripted.load, untouched]
        rw [same] at later
        simp only [prune, stays_open ttl s stays, failed, Bool.false_eq_true, if_false, run,
          List.filter_cons]
        exact later
    | advance seconds => exact ih { s with store := s.store.advance seconds } kept
    | lay script => exact ih (s.load script) kept

end Pruning

def Turn.deeds (t : Turn) : List Deed :=
  [.lay t.script] ++
    (match t.action with
      | .perform op => [.call op]
      | .leave => [.call .shutdown]
      | .advance seconds => [.advance seconds]
      | .enter | .dump | .describe => []) ++
    [.lay []]

def Report.seen? (r : Report) : Option Seen :=
  match r.answer with
  | .outcome result => some ⟨result, r.trace⟩
  | _ => none

theorem run_deeds (t : Turn) (cache : Cache) (s : Scripted) (rest : List Deed) :
    run cache s (t.deeds ++ rest) =
      ((take cache s t).1.seen?.toList ++
          (run (take cache s t).1.cache (take cache s t).2 rest).1,
        (run (take cache s t).1.cache (take cache s t).2 rest).2) := by
  obtain ⟨action, script⟩ := t
  cases action <;> rfl

theorem run_turns (turns : List Turn) (cache : Cache) (s : Scripted) :
    run cache s (turns.flatMap Turn.deeds) =
      ((takeAll cache s turns).1.filterMap Report.seen?, (takeAll cache s turns).2) := by
  induction turns generalizing cache s with
  | nil => rfl
  | cons t ts ih =>
    rw [List.flatMap_cons, run_deeds, ih, takeAll]
    cases seen : (take cache s t).1.seen? with
    | none => simp [seen]
    | some c => simp [seen]

/-- A call that fails, for whatever reason, leaves the cache and the store as they were and uses up
no more than the outcome laid down for it. So a run is the same without the calls that fail in it and
the outcomes that they use up: every other call is seen as before, and the cache and the store are at
last the same. The same holds for sessions. -/
theorem failed_calls_leave_no_trace (ttl : Int) (s : Scripted) :
    (∀ op, op ≠ .shutdown → ∀ e,
        (perform Scripted.client (live ttl false) s op).result = .error e →
        Traceless (live ttl false) s (perform Scripted.client (live ttl false) s op)) ∧
      (∀ deeds, InUse deeds →
        run (live ttl false) (s.load (prune (live ttl false) s deeds).1)
            (prune (live ttl false) s deeds).2 =
          ((run (live ttl false) s deeds).1.filter Seen.succeeded,
            (run (live ttl false) s deeds).2)) ∧
      (∀ turns, InUse (turns.flatMap Turn.deeds) →
        run (live ttl false) (s.load (prune (live ttl false) s (turns.flatMap Turn.deeds)).1)
            (prune (live ttl false) s (turns.flatMap Turn.deeds)).2 =
          (((takeAll (live ttl false) s turns).1.filterMap Report.seen?).filter Seen.succeeded,
            (takeAll (live ttl false) s turns).2)) := by
  refine ⟨fun op stays e failed => traceless_of_failure ttl s stays failed, ?_, ?_⟩
  · intro deeds inUse
    exact run_prune ttl s deeds inUse
  · intro turns inUse
    rw [run_prune ttl s _ inUse, run_turns]

def troubled : Scripted :=
  ⟨.ofList [("seat", ⟨"taken", none⟩)], [.ok (.text "soon"), .error (.store .timeout "slow")]⟩

def troubledDeeds : List Deed :=
  [.call (.ttl "seat"), .call (.get "seat"), .advance 5, .call (.set "seat" "free" (some (-1))),
    .call (.get "seat")]

/-- A reply that cannot be understood, a fault of the store's client and a refusal of the store itself
leave nothing behind; the last call is all that is left. -/
theorem three_failures_leave_no_trace :
    Traceless (live 3600 false) troubled
        (perform Scripted.client (live 3600 false) troubled (.ttl "seat")) ∧
      prune (live 3600 false) troubled troubledDeeds =
        ([], [.advance 5, .call (.get "seat")]) ∧
      run (live 3600 false) (troubled.load []) [.advance 5, .call (.get "seat")] =
        ((run (live 3600 false) troubled troubledDeeds).1.filter Seen.succeeded,
          (run (live 3600 false) troubled troubledDeeds).2) ∧
      (run (live 3600 false) troubled troubledDeeds).1.map (fun c => c.result.toOption) =
        [none, none, none, some (.text "taken")] := by
  have law := failed_calls_leave_no_trace 3600 troubled
  have left : prune (live 3600 false) troubled troubledDeeds =
      ([], [.advance 5, .call (.get "seat")]) := rfl
  refine ⟨law.1 (.ttl "seat") (by decide) _ rfl, left, ?_, rfl⟩
  have same := law.2.1 troubledDeeds (by simp [InUse, troubledDeeds])
  rwa [left] at same

end Cache
end GatedCache
