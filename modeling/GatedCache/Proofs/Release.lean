import GatedCache.Proofs.Body
import GatedCache.Proofs.Opening

/-!
Release of the connection by a scope that opens its own cache. Once the cache is open, the
connection is released exactly once and last, whatever the body does and however it ends. If the
opening fails, nothing is released at all.
-/
namespace GatedCache.Cache

variable {σ : Type}

/-- All commands that a scope sent: in its opening, in its body and in leaving. -/
def Lifespan.calls (l : Lifespan σ (List Event)) : List Command :=
  Cache.calls l.opening.trace ++
    match l.left with
    | some left => Cache.calls left.output ++ Cache.calls left.trace
    | none => []

theorem calls_enterOpening (client : Client σ) (s : Settings) (state : σ)
    (on : s.redisEnabled = true) : calls (enterOpening client s state).trace = [.ping] := by
  simp only [enterOpening, openWith_enabled client s state on]
  exact calls_probe client s state

theorem released_leave (escape : Failure → Failure) (client : Client σ)
    (v : Visit σ (List Event)) (cs : List Command) (known : Accounted v.cache cs)
    (enabled : v.cache.isEnabled = true) :
    ReleasedOnce (cs ++ calls (leaveBy escape client v).trace) := by
  have account := accounted_perform client v.cache v.state .shutdown cs known
  obtain ⟨ttl, closed, kind⟩ := live_of_isEnabled enabled
  rw [kind] at account
  simp only [after, beq_self_eq_true, Bool.or_true, Accounted] at account
  simp only [leaveBy, kind]
  exact account

theorem released_lifespan (client : Client σ) (s : Settings) (on : s.redisEnabled = true)
    (state : σ) (body : Body σ) (cache : Cache)
    (opened : (openWith client s state).result = .ok cache) :
    ReleasedOnce (lifespan client s state (body.run client)).calls := by
  have entered := (enterOpening_ok_iff client s state cache).mpr opened
  have fresh : cache = live s.redisTtl false := by
    rw [opened_cache client s state cache opened]
    simp [create, on]
  have start : Accounted cache [Command.ping] := by simp [fresh, Accounted]
  have kept := Body.accounted_run client body cache (enterOpening client s state).state _ start
  have kind := Body.isEnabled_run client body cache (enterOpening client s state).state
  have last := released_leave Failure.outOfScope client
    (body.run client cache (enterOpening client s state).state) _ kept (by rw [kind, fresh]; rfl)
  simp only [lifespan, Lifespan.calls, entered, calls_enterOpening client s state on]
  rw [List.append_assoc] at last
  exact last

theorem unopened_lifespan (client : Client σ) (s : Settings) (on : s.redisEnabled = true)
    (state : σ) (body : Body σ) (e : Failure)
    (failed : (openWith client s state).result = .error e) :
    (lifespan client s state (body.run client)).left = none ∧
      (lifespan client s state (body.run client)).calls = [.ping] := by
  have refused : (enterOpening client s state).result = .error e.outOfScope := by
    simp only [enterOpening, failed]
    rfl
  constructor
  · simp only [lifespan, refused]
  · simp only [lifespan, Lifespan.calls, refused, calls_enterOpening client s state on]
    rfl

/-- A scope over an enabled store releases its connection exactly once and last if and only if the
first ping comes to a reply or to a fault of the store or of the system. Otherwise the body does not
run, the ping is the only command, and the connection is never released. -/
theorem released_once_iff_tolerated (client : Client σ) (s : Settings)
    (on : s.redisEnabled = true) (state : σ) (body : Body σ) :
    (ReleasedOnce (lifespan client s state (body.run client)).calls ↔
        Tolerated (client.answer state .ping).1) ∧
      (¬ Tolerated (client.answer state .ping).1 →
        (lifespan client s state (body.run client)).left = none ∧
          (lifespan client s state (body.run client)).calls = [.ping]) := by
  have opening : (openWith client s state).result =
      (probe client s state).result.map fun _ => live s.redisTtl false := by
    rw [openWith_enabled client s state on]
  cases asked : (probe client s state).result with
  | ok b =>
    have tolerated := (probe_ok_iff client s state).mp ⟨b, asked⟩
    rw [asked] at opening
    have released := released_lifespan client s on state body _ opening
    exact ⟨⟨fun _ => tolerated, fun _ => released⟩, fun not => absurd tolerated not⟩
  | error e =>
    have fatal : ¬ Tolerated (client.answer state .ping).1 := by
      intro tolerated
      obtain ⟨b, ok⟩ := (probe_ok_iff client s state).mpr tolerated
      rw [asked] at ok
      cases ok
    rw [asked] at opening
    have unopened := unopened_lifespan client s on state body e opening
    refine ⟨⟨fun released => ?_, fun tolerated => absurd tolerated fatal⟩, fun _ => unopened⟩
    have sent := close_mem_of_releasedOnce released
    rw [unopened.2] at sent
    exact absurd sent (by decide)

/-- A first ping that comes to a failure of another kind leaves the connection unreleased. -/
theorem unreleased_after_foreign_failure :
    Settings.switchedOn.redisEnabled = true ∧
      ¬ ReleasedOnce (lifespan Scripted.client .switchedOn
        ⟨.empty, [.error (.other "ValueError" "refused")]⟩
        ((Body.finish (.ok ())).run Scripted.client)).calls := by
  refine ⟨rfl, fun released => ?_⟩
  have tolerated := (released_once_iff_tolerated Scripted.client .switchedOn rfl _ _).1.mp released
  rcases tolerated with store | system
  · cases store
  · cases system

end GatedCache.Cache
