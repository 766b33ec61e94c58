import GatedCache.Cache.Scope
import GatedCache.Proofs.RoundTrip

/-!
Shutdown is final. A caller uses an open cache one time after the other, whatever comes of each use:
operations in any order, and leaving the cache's own scope. The client may answer anything. The
connection is released at most once and last; from the first shutdown on the cache is closed, and
every further use is refused, or idle if it is a shutdown.
-/
namespace GatedCache.Cache

variable {σ : Type}

/-- The connection was released exactly once, and nothing was sent after that. -/
def ReleasedOnce (cs : List Command) : Prop :=
  ∃ before, Command.close ∉ before ∧ cs = before ++ [.close]

/-- What the commands sent so far are, for a cache to be what it is now. -/
def Accounted : Cache → List Command → Prop
  | disabled _, cs => cs = []
  | live _ false, cs => Command.close ∉ cs
  | live _ true, cs => ReleasedOnce cs

theorem close_mem_of_releasedOnce {cs : List Command} (released : ReleasedOnce cs) :
    Command.close ∈ cs := by
  obtain ⟨before, _, rfl⟩ := released
  exact List.mem_append_right before (List.mem_singleton_self _)

theorem accounted_perform (client : Client σ) (cache : Cache) (state : σ) (op : Operation)
    (cs : List Command) (known : Accounted cache cs) :
    Accounted (cache.after op) (cs ++ calls (perform client cache state op).trace) := by
  rw [calls_perform]
  cases cache with
  | disabled ttl => simpa [isOpen, after, Accounted] using known
  | live ttl closed =>
    cases closed with
    | true => simpa [isOpen, after, Accounted] using known
    | false =>
      by_cases last : op = .shutdown
      · subst last
        exact ⟨cs, known, rfl⟩
      · have flag : (op == .shutdown) = false := by simp [last]
        have other : Command.close ≠ op.command := fun h => last ((command_eq_close_iff op).mp h.symm)
        simp only [Accounted] at known
        simp [isOpen, after, Accounted, flag, known, other]

/-- A use of a cache: an operation, or leaving the cache's own scope after its body ended. -/
inductive Use where
  | call (op : Operation)
  | leave (ending : Except Failure Unit)

namespace Use

def operation : Use → Operation
  | call op => op
  | leave _ => .shutdown

def shutsDown (u : Use) : Bool := u.operation == .shutdown

/-- What a shutdown gives when there is nothing left to do; leaving passes the body's ending on. -/
def idleResult : Use → Outcome
  | call _ => .ok .null
  | leave ending => ending.map fun _ => .null

def take (client : Client σ) (cache : Cache) (state : σ) : Use → Step σ
  | call op => perform client cache state op
  | leave ending =>
    let left := Cache.leave client ⟨ending, cache, state, ()⟩
    ⟨left.result.map fun _ => .null, left.cache, left.state, left.trace⟩

theorem cache_take (client : Client σ) (cache : Cache) (state : σ) (u : Use) :
    (u.take client cache state).cache = cache.after u.operation := by
  cases u <;> exact cache_perform client cache state _

theorem trace_take (client : Client σ) (cache : Cache) (state : σ) (u : Use) :
    (u.take client cache state).trace = (perform client cache state u.operation).trace := by
  cases u <;> rfl

end Use

def useAll (client : Client σ) (cache : Cache) (state : σ) : List Use → List (Step σ)
  | [] => []
  | u :: us =>
    let step := u.take client cache state
    step :: useAll client step.cache step.state us

def callsOf (steps : List (Step σ)) : List Command :=
  steps.flatMap fun s => calls s.trace

theorem accounted_useAll (client : Client σ) (ttl : Int) (closed : Bool) (state : σ)
    (uses : List Use) (cs : List Command) (known : Accounted (live ttl closed) cs) :
    Accounted (live ttl (closed || uses.any Use.shutsDown))
      (cs ++ callsOf (useAll client (live ttl closed) state uses)) := by
  -- The commands sent before the uses are kept in the account, so that it carries over a step.
  induction uses generalizing closed state cs with
  | nil => simpa [useAll, callsOf] using known
  | cons u us ih =>
    have step := accounted_perform client (live ttl closed) state u.operation cs known
    have rest := ih (closed || u.shutsDown) (u.take client (live ttl closed) state).state _ step
    simp only [useAll, callsOf, List.flatMap_cons, List.any_cons, Use.trace_take, Use.cache_take,
      ← List.append_assoc, ← Bool.or_assoc]
    exact rest

structure Refused (op : Operation) (e : Failure) : Prop where
  name : e.name = "CacheConnectionException"
  code : e.code = some "CACHE_CONNECTION_ERROR"
  text : e.text = "Cache is shut down; cannot run \x27" ++ op.name ++ "\x27"
  details : e.details = [("operation", .text op.name)]
  cause : e.cause = none

theorem afterShutdown_refused (op : Operation) : Refused op (Failure.afterShutdown op.name) := by
  constructor
  · rfl
  · rfl
  · rfl
  · cases op <;> rfl
  · rfl

structure Settled (late : Bool) (u : Use) (s : Step σ) : Prop where
  closed : s.cache.closed? = some (late || u.shutsDown)
  silent : late = true → calls s.trace = []
  refused : late = true → u.shutsDown = false → ∃ e, s.result = .error e ∧ Refused u.operation e
  idle : late = true → u.shutsDown = true → s.result = u.idleResult

theorem take_settled (client : Client σ) (ttl : Int) (late : Bool) (state : σ) (u : Use) :
    Settled late u (u.take client (live ttl late) state) := by
  constructor
  · rw [Use.cache_take]
    rfl
  · intro h
    subst h
    rw [Use.trace_take]
    rfl
  · intro h before
    subst h
    cases u with
    | call op =>
      have early : op ≠ .shutdown := by simpa [Use.shutsDown, Use.operation] using before
      refine ⟨Failure.afterShutdown op.name, ?_, afterShutdown_refused op⟩
      simp [Use.take, afterShutdown, early]
    | leave ending => cases before
  · intro h again
    subst h
    cases u with
    | call op =>
      have last : op = .shutdown := by simpa [Use.shutsDown, Use.operation] using again
      subst last
      rfl
    | leave ending => rfl

theorem useAll_settled (client : Client σ) (ttl : Int) (late : Bool) (state : σ) (uses : List Use)
    (i : Nat) (u : Use) (present : uses[i]? = some u) :
    ∃ s, (useAll client (live ttl late) state uses)[i]? = some s ∧
      Settled (late || (uses.take i).any Use.shutsDown) u s := by
  induction uses generalizing late state i with
  | nil => cases present
  | cons v us ih =>
    cases i with
    | zero =>
      cases Option.some.inj present
      refine ⟨_, rfl, ?_⟩
      simpa using take_settled client ttl late state u
    | succ i =>
      obtain ⟨s, found, settled⟩ :=
        ih (late || v.shutsDown) (v.take client (live ttl late) state).state i present
      refine ⟨s, ?_, ?_⟩
      · simp only [useAll, List.getElem?_cons_succ, Use.cache_take]
        exact found
      · simpa only [List.take_succ_cons, List.any_cons, ← Bool.or_assoc] using settled

/-- Over any uses of an open cache and any client: the connection is released once and last if one
of the uses shuts the cache down, and not at all otherwise; and each use finds the cache closed,
is refused or has nothing to do exactly as the uses before it say. -/
theorem shutdown_final (client : Client σ) (ttl : Int) (state : σ) (uses : List Use) :
    (if uses.any Use.shutsDown then
        ReleasedOnce (callsOf (useAll client (live ttl false) state uses))
      else Command.close ∉ callsOf (useAll client (live ttl false) state uses)) ∧
      ∀ i u, uses[i]? = some u →
        ∃ s, (useAll client (live ttl false) state uses)[i]? = some s ∧
          Settled ((uses.take i).any Use.shutsDown) u s := by
  constructor
  · have h := accounted_useAll client ttl false state uses [] (by simp [Accounted])
    cases shut : uses.any Use.shutsDown <;> simpa [shut, Accounted] using h
  · intro i u present
    simpa using useAll_settled client ttl false state uses i u present

end GatedCache.Cache
