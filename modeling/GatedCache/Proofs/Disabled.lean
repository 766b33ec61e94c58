import GatedCache.Proofs.Body
import GatedCache.Proofs.Opening

/-!
A disabled cache is a store that is empty for good. Whatever is done with it, nothing is sent, the
client's state is left as it is, and each operation comes to what an open cache over an empty store
would give; a scope ends as its body does. So it makes no difference which client was handed over.
-/
namespace GatedCache.Cache

variable {σ : Type}

theorem settle_error_ne_ok (op : Operation) (e : Failure) (v : Value) :
    settle op (.error e) ≠ .ok v := by
  intro same
  simp only [settle] at same
  split at same <;> cases same

/-- Over a store that holds nothing an open cache gives what a disabled one does, if it gives a result
at all. Only the ping tells them apart. -/
theorem eq_emptyResult_of_empty {s : Store} (empty : ∀ key, s.find? key = none) {op : Operation}
    (other : op ≠ .ping) {v : Value} (given : settle op (s.answer op.command).1 = .ok v) :
    v = op.emptyResult := by
  cases replied : (s.answer op.command).1 with
  | error e =>
    rw [replied] at given
    exact absurd given (settle_error_ne_ok op e v)
  | ok reply =>
    rw [replied] at given
    cases op with
    | get key =>
      simp only [Operation.command, Store.answer, empty key] at replied
      cases replied
      cases given
      rfl
    | has key =>
      simp only [Operation.command, Store.answer, Store.contains, empty key] at replied
      cases replied
      cases given
      rfl
    | ttl key =>
      simp only [Operation.command, Store.answer, empty key] at replied
      cases replied
      cases given
      rfl
    | ping => exact absurd rfl other
    | _ =>
      cases given
      rfl

/-- An operation that came to what an empty store gives, without a trace. -/
structure EmptyHanded (p : Body.Performed σ) : Prop where
  silent : p.step.trace = []
  untouched : p.step.state = p.before
  answered : ∃ v, p.step.result = .ok v
  ping : p.op = .ping → p.step.result = .ok (.bool false)
  asEmpty : ∀ (ttl : Int) (s : Store), (∀ key, s.find? key = none) → p.op ≠ .ping →
    ∀ v, (perform Store.client (live ttl false) s p.op).result = .ok v → p.step.result = .ok v

theorem emptyHanded_perform (client : Client σ) (ttl : Int) (state : σ) (op : Operation) :
    EmptyHanded ⟨op, state, perform client (disabled ttl) state op⟩ := by
  constructor
  · rfl
  · rfl
  · exact ⟨op.emptyResult, rfl⟩
  · rintro rfl
    rfl
  · intro otherTtl s empty other v given
    rw [result_perform_open] at given
    rw [eq_emptyResult_of_empty empty other given]
    rfl

namespace Body

theorem emptyHanded_performed (client : Client σ) (ttl : Int) (body : Body σ) (state : σ) :
    ∀ p ∈ body.performed client (disabled ttl) state, EmptyHanded p := by
  induction body generalizing state with
  | finish ending => exact List.forall_mem_nil _
  | perform op next ih =>
    simp only [performed, List.forall_mem_cons]
    exact ⟨emptyHanded_perform client ttl state op, ih _ _⟩
  | meanwhile change next ih => exact ih (change state)

theorem cache_run_disabled (client : Client σ) (ttl : Int) (body : Body σ) (state : σ) :
    (body.run client (disabled ttl) state).cache = disabled ttl := by
  induction body generalizing state with
  | finish ending => rfl
  | perform op next ih => exact ih _ _
  | meanwhile change next ih => exact ih (change state)

/-- A body during which nothing else happens to the client's state. -/
def Undisturbed : Body σ → Prop
  | finish _ => True
  | perform _ next => ∀ o, (next o).Undisturbed
  | meanwhile _ _ => False

theorem state_run_disabled (client : Client σ) (ttl : Int) (body : Body σ) (state : σ)
    (undisturbed : body.Undisturbed) : (body.run client (disabled ttl) state).state = state := by
  induction body generalizing state with
  | finish ending => rfl
  | perform op next ih => exact ih _ _ (undisturbed _)
  | meanwhile change next ih => exact undisturbed.elim

theorem output_run_disabled (client : Client σ) (ttl : Int) (body : Body σ) (state : σ) :
    (body.run client (disabled ttl) state).output = [] := by
  rw [output_run, List.flatMap_eq_nil_iff]
  intro p present
  exact (emptyHanded_performed client ttl body state p present).silent

/-- What a caller of the cache sees of an operation. -/
def Performed.answer (p : Performed σ) : Operation × Outcome := (p.op, p.step.result)

/-- With a disabled cache a body goes the same way whatever client there is. -/
theorem run_disabled_congr (client other : Client σ) (ttl : Int) (body : Body σ)
    (state state' : σ) :
    (body.performed client (disabled ttl) state).map Performed.answer =
        (body.performed other (disabled ttl) state').map Performed.answer ∧
      (body.run client (disabled ttl) state).ending =
        (body.run other (disabled ttl) state').ending := by
  induction body generalizing state state' with
  | finish ending => exact ⟨rfl, rfl⟩
  | perform op next ih =>
    obtain ⟨answers, ending⟩ := ih (.ok op.emptyResult) state state'
    exact ⟨congrArg (List.cons _) answers, ending⟩
  | meanwhile change next ih => exact ih (change state) (change state')

end Body

/-- What a body comes to with the cache that settings make, opened or not and with its own scope or
without. -/
structure ServedFromNothing (client : Client σ) (s : Settings) (state : σ) (body : Body σ)
    (v : Visit σ (List Event)) : Prop where
  connections : ∀ handed, connectionsMade s handed = 0
  created : body.runCreated client s state = ([.log disabledRecord], v)
  opened : body.runOpened client s state =
    (⟨.ok (disabled s.redisTtl), state, [.log disabledRecord]⟩, some v)
  within : lifespan client s state (body.run client) =
    ⟨⟨.ok (disabled s.redisTtl), state, [.log disabledRecord]⟩,
      some ⟨v.ending, v.cache, v.state, [], v.output⟩⟩
  silent : v.output = []
  cache : v.cache = disabled s.redisTtl
  untouched : body.Undisturbed → v.state = state
  performed : ∀ p ∈ body.performed client (create s).1 state, EmptyHanded p
  anyClient : ∀ (other : Client σ) (state' : σ),
    (body.performed client (create s).1 state).map Body.Performed.answer =
        (body.performed other (create s).1 state').map Body.Performed.answer ∧
      v.ending = (body.run other (create s).1 state').ending

theorem leaveBy_disabled (escape : Failure → Failure) (client : Client σ)
    (v : Visit σ (List Event)) {ttl : Int} (off : v.cache = disabled ttl) :
    leaveBy escape client v = ⟨v.ending, v.cache, v.state, [], v.output⟩ := by
  simp only [leaveBy, off, perform_disabled]

/-- A cache that settings disable never calls the client that it was handed. All operations of a body
come to what an empty store gives, and a failure of the body leaves the scope as it is. -/
theorem disabled_cache_serves_from_nothing (s : Settings) (off : s.redisEnabled = false)
    (client : Client σ) (state : σ) (body : Body σ) :
    ServedFromNothing client s state body (body.run client (disabled s.redisTtl) state) := by
  have made : create s = (disabled s.redisTtl, [.log disabledRecord]) := by
    simp [create, off]
  have entered : enterOpening client s state =
      ⟨.ok (disabled s.redisTtl), state, [.log disabledRecord]⟩ := by
    simp only [enterOpening, openWith_disabled client s state off]
    rfl
  have kept := Body.cache_run_disabled client s.redisTtl body state
  constructor
  · intro handed
    simp [connectionsMade, off]
  · simp only [Body.runCreated, made]
  · simp only [Body.runOpened, openWith_disabled client s state off]
  · simp only [lifespan, entered, leaveOpening, leaveBy_disabled Failure.outOfScope client _ kept]
  · exact Body.output_run_disabled client s.redisTtl body state
  · exact kept
  · exact Body.state_run_disabled client s.redisTtl body state
  · rw [made]
    exact Body.emptyHanded_performed client s.redisTtl body state
  · intro other state'
    rw [made]
    exact Body.run_disabled_congr client other s.redisTtl body state state'

def switchedOff : Settings := { Settings.switchedOn with redisEnabled := false }

/-- A client that would refuse its first call. -/
def reluctant : Scripted := ⟨.ofList [("seat", ⟨"taken", none⟩)], [.error (.store .timeout "slow")]⟩

/-- Sets an entry with an expiry that no store holds, shuts the cache down, goes on to ask for the
entry, and fails. -/
def careless : Body Scripted :=
  .perform (.set "seat" "free" (some (-1))) fun _ => .perform .shutdown fun _ =>
    .perform (.get "seat") fun _ => .finish (.error (.other "ValueError" "spoiled"))

theorem careless_body_is_served_from_nothing :
    switchedOff.redisEnabled = false ∧
      lifespan Scripted.client switchedOff reluctant (careless.run Scripted.client) =
        ⟨⟨.ok (disabled 3600), reluctant, [.log disabledRecord]⟩,
          some ⟨.error (.other "ValueError" "spoiled"), disabled 3600, reluctant, [], []⟩⟩ ∧
      (careless.performed Scripted.client (create switchedOff).1 reluctant).map
          Body.Performed.answer =
        [(.set "seat" "free" (some (-1)), .ok .null), (.shutdown, .ok .null),
          (.get "seat", .ok .null)] := by
  have served := disabled_cache_serves_from_nothing switchedOff rfl Scripted.client reluctant careless
  refine ⟨rfl, served.within, ?_⟩
  rw [(served.anyClient Scripted.client ⟨.empty, []⟩).1]
  rfl

end GatedCache.Cache
