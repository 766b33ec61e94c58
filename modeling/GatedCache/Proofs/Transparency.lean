import GatedCache.Proofs.Body
import GatedCache.Proofs.Opening

/-!
The ping at the opening of a cache is transparent. If it comes to a reply, a fault of the store or a
fault of the system, then the opened cache is the created one, and whatever is done with it afterwards
goes as it would go with the created one: one call and one record at the beginning are all that
differs. Every other failure of the ping is the failure of the opening.
-/
namespace GatedCache.Cache

variable {σ : Type}

/-- A relation between a client's states that no call can tell apart. -/
structure AnswersAlike (client : Client σ) (R : σ → σ → Prop) : Prop where
  outcome : ∀ {a b}, R a b → ∀ c, (client.answer a c).1 = (client.answer b c).1
  state : ∀ {a b}, R a b → ∀ c, R (client.answer a c).2 (client.answer b c).2

theorem answersAlike_eq (client : Client σ) : AnswersAlike client Eq where
  outcome same c := by rw [same]
  state same c := by rw [same]

namespace Body

/-- What happens to the client's state during the body preserves the relation. -/
def Keeps (R : σ → σ → Prop) : Body σ → Prop
  | finish _ => True
  | perform _ next => ∀ o, (next o).Keeps R
  | meanwhile change next => (∀ {a b}, R a b → R (change a) (change b)) ∧ next.Keeps R

theorem keeps_eq (body : Body σ) : body.Keeps Eq := by
  induction body with
  | finish ending => trivial
  | perform op next ih => exact ih
  | meanwhile change next ih => exact ⟨fun same => congrArg change same, ih⟩

/-- An operation of a body as its caller and an onlooker see it, and the cache that it leaves. -/
structure Shown where
  op : Operation
  result : Outcome
  cache : Cache
  trace : List Event

def Performed.shown (p : Performed σ) : Shown := ⟨p.op, p.step.result, p.step.cache, p.step.trace⟩

def shown (client : Client σ) (body : Body σ) (cache : Cache) (state : σ) : List Shown :=
  (body.performed client cache state).map Performed.shown

end Body

structure SameStep (R : σ → σ → Prop) (x y : Step σ) : Prop where
  result : x.result = y.result
  cache : x.cache = y.cache
  trace : x.trace = y.trace
  state : R x.state y.state

structure SameVisit {α : Type} (R : σ → σ → Prop) (x y : Visit σ α) : Prop where
  ending : x.ending = y.ending
  cache : x.cache = y.cache
  output : x.output = y.output
  state : R x.state y.state

section Alike

variable {client : Client σ} {R : σ → σ → Prop} (alike : AnswersAlike client R)
include alike

theorem perform_alike (cache : Cache) (op : Operation) {a b : σ} (related : R a b) :
    SameStep R (perform client cache a op) (perform client cache b op) := by
  cases cache with
  | disabled ttl => exact ⟨rfl, rfl, rfl, related⟩
  | live ttl closed =>
    cases closed with
    | true => exact ⟨rfl, rfl, rfl, related⟩
    | false =>
      have outcome := alike.outcome related op.command
      exact ⟨congrArg (settle op) outcome, rfl, congrArg (observe op) outcome,
        alike.state related op.command⟩

theorem run_alike (body : Body σ) (keeps : body.Keeps R) (cache : Cache) {a b : σ}
    (related : R a b) : SameVisit R (body.run client cache a) (body.run client cache b) := by
  induction body generalizing cache a b with
  | finish ending => exact ⟨rfl, rfl, rfl, related⟩
  | perform op next ih =>
    have step := perform_alike alike cache op related
    have rest := ih (perform client cache b op).result (keeps _) (perform client cache b op).cache
      step.state
    simp only [Body.run, step.result, step.cache, step.trace]
    exact ⟨rest.ending, rest.cache, congrArg (_ ++ ·) rest.output, rest.state⟩
  | meanwhile change next ih => exact ih keeps.2 cache (keeps.1 related)

theorem shown_alike (body : Body σ) (keeps : body.Keeps R) (cache : Cache) {a b : σ}
    (related : R a b) : body.shown client cache a = body.shown client cache b := by
  induction body generalizing cache a b with
  | finish ending => rfl
  | perform op next ih =>
    have step := perform_alike alike cache op related
    have rest := ih (perform client cache b op).result (keeps _) (perform client cache b op).cache
      step.state
    simp only [Body.shown, Body.performed, List.map_cons, Body.Performed.shown, step.result,
      step.cache, step.trace] at rest ⊢
    rw [rest]
  | meanwhile change next ih => exact ih keeps.2 cache (keeps.1 related)

end Alike

/-- A record that says where the store is sought. -/
structure Locates (s : Settings) (r : Log.Record) : Prop where
  origin : r.origin = .connection
  host : r.extra.lookup "host" = some (.text s.redisHost)
  tcpPort : r.extra.lookup "port" = some (.int s.redisPort)
  database : r.extra.lookup "db" = some (.int s.redisDb)

/-- The record of the first ping, by what the ping came to. -/
def Reports (s : Settings) (r : Log.Record) : Outcome → Prop
  | .ok _ => r.level = .info ∧ r.message = "Redis connected successfully" ∧ Locates s r
  | .error e => r.level = .error ∧ r.message = "Redis connection error: " ++ e.text ∧ Locates s r

theorem locates_place (s : Settings) (level : Log.Level) (message : String) :
    Locates s ⟨.connection, level, message, place s⟩ := ⟨rfl, rfl, rfl, rfl⟩

section Ping

variable (client : Client σ) (s : Settings) {state later : σ}

theorem openWith_tolerated (on : s.redisEnabled = true) {outcome : Outcome}
    (asked : client.answer state .ping = (outcome, later)) (tolerated : Tolerated outcome) :
    ∃ r, Reports s r outcome ∧
      openWith client s state = ⟨.ok (live s.redisTtl false), later, [.call .ping, .log r]⟩ := by
  rw [openWith_enabled client s state on]
  cases outcome with
  | ok reply =>
    refine ⟨connectedRecord s, ⟨rfl, rfl, locates_place s _ _⟩, ?_⟩
    simp only [probe, asked, Except.map]
  | error e =>
    have known : (e.isStore || e.isSystem) = true := by
      rw [Bool.or_eq_true]
      exact tolerated
    refine ⟨unreachableRecord s e, ⟨rfl, rfl, locates_place s _ _⟩, ?_⟩
    simp only [probe, asked, known, if_true, Except.map]

theorem openWith_untolerated (on : s.redisEnabled = true) {e : Failure}
    (asked : client.answer state .ping = (.error e, later)) (fatal : ¬ Tolerated (.error e)) :
    openWith client s state = ⟨.error e, later, [.call .ping]⟩ := by
  have unknown : (e.isStore || e.isSystem) = false := by
    rw [← Bool.not_eq_true, Bool.or_eq_true]
    exact fatal
  rw [openWith_enabled client s state on]
  simp only [probe, asked, unknown, Bool.false_eq_true, if_false, Except.map]

end Ping

/-- A body goes with the opened cache as with the created one, ahead of which come a call and a
record. -/
structure SameCourse (client : Client σ) (s : Settings) (R : σ → σ → Prop) (state other : σ)
    (r : Log.Record) (body : Body σ) : Prop where
  shown : ∀ cache, (openWith client s state).result = .ok cache →
    body.shown client cache (openWith client s state).state = body.shown client (create s).1 other
  visit : ∃ v, (Body.runOpened client s state body).2 = some v ∧
    SameVisit R v (Body.runCreated client s other body).2 ∧
    (openWith client s state).trace ++ v.output =
      [.call .ping, .log r] ++ ((create s).2 ++ (Body.runCreated client s other body).2.output)

/-- The opening gives the created cache, and every body goes with it as with the created one. The
client of the latter may be in any state that answers like the one in which the ping left it. -/
structure Transparent (client : Client σ) (s : Settings) (state later : σ) (r : Log.Record) : Prop where
  opened : openWith client s state =
    ⟨.ok (live s.redisTtl false), later, [.call .ping, .log r]⟩
  created : create s = (live s.redisTtl false, [])
  afterwards : ∀ (R : σ → σ → Prop) (other : σ) (body : Body σ), AnswersAlike client R →
    R later other → body.Keeps R → SameCourse client s R state other r body

theorem transparent_of_opened (client : Client σ) (s : Settings) (on : s.redisEnabled = true)
    {state later : σ} {r : Log.Record} (opened : openWith client s state =
      ⟨.ok (live s.redisTtl false), later, [.call .ping, .log r]⟩) :
    Transparent client s state later r := by
  have created : create s = (live s.redisTtl false, []) := by simp [create, on]
  refine ⟨opened, created, fun R other body alike related keeps => ?_⟩
  have visit := run_alike alike body keeps (live s.redisTtl false) related
  constructor
  · intro cache given
    rw [opened] at given ⊢
    cases given
    rw [created]
    exact shown_alike alike body keeps (live s.redisTtl false) related
  · refine ⟨body.run client (live s.redisTtl false) later, ?_, ?_, ?_⟩
    · simp only [Body.runOpened, opened]
    · simpa only [Body.runCreated, created] using visit
    · simp only [opened, created, Body.runCreated, visit.output, List.nil_append]

/-- Over the very state in which the ping left the client, every body qualifies. -/
theorem Transparent.sameCourse {client : Client σ} {s : Settings} {state later : σ} {r : Log.Record}
    (transparent : Transparent client s state later r) (body : Body σ) :
    SameCourse client s Eq state later r body :=
  transparent.afterwards Eq later body (answersAlike_eq client) rfl body.keeps_eq

/-- A session goes on after an opening as it does after a creation over the same store. -/
theorem takeAll_opened (s : Settings) (on : s.redisEnabled = true) (store : Store)
    (script : List Outcome) (cache : Cache)
    (opened : (openWith Scripted.client s ⟨store, script⟩).result = .ok cache) (turns : List Turn) :
    takeAll cache (openWith Scripted.client s ⟨store, script⟩).state.drop turns =
      takeAll (create s).1 ⟨store, []⟩ turns := by
  have kept : (openWith Scripted.client s ⟨store, script⟩).state.drop = ⟨store, []⟩ := by
    rw [openWith_enabled Scripted.client s _ on, state_probe]
    cases script <;> rfl
  rw [kept, opened_cache Scripted.client s _ cache opened]

/-- The ping of an opening comes to something and leaves the client in some state. If that can be
tolerated, the opening is transparent and reports the ping; otherwise it fails as the ping did, reports
nothing, and nothing is run. -/
theorem startup_ping_is_transparent (client : Client σ) (s : Settings) (on : s.redisEnabled = true)
    (state later : σ) (outcome : Outcome) (asked : client.answer state .ping = (outcome, later)) :
    (Tolerated outcome → ∃ r, Reports s r outcome ∧ Transparent client s state later r) ∧
      (¬ Tolerated outcome → ∃ e, outcome = .error e ∧
        openWith client s state = ⟨.error e, later, [.call .ping]⟩ ∧
        ∀ body, (Body.runOpened client s state body).2 = none) := by
  constructor
  · intro tolerated
    obtain ⟨r, reports, opened⟩ := openWith_tolerated client s on asked tolerated
    exact ⟨r, reports, transparent_of_opened client s on opened⟩
  · intro fatal
    cases outcome with
    | ok reply => exact absurd trivial fatal
    | error e =>
      have failed := openWith_untolerated client s on asked fatal
      refine ⟨e, rfl, failed, fun body => ?_⟩
      simp only [Body.runOpened, failed]

/-- A ping refused by the system on the way to a store, and a ping that is cancelled. -/
theorem refused_ping_is_transparent :
    (∃ r, Reports .switchedOn r (.error (.system .refused "refused")) ∧
      ∀ body, SameCourse Scripted.client .switchedOn Eq
        ⟨.empty, [.error (.system .refused "refused")]⟩ ⟨.empty, []⟩ r body) ∧
      ∃ e, (.error (.cancelled "") : Outcome) = .error e ∧
        openWith Scripted.client .switchedOn ⟨.empty, [.error (.cancelled "")]⟩ =
          ⟨.error e, ⟨.empty, []⟩, [.call .ping]⟩ ∧
        ∀ body, (Body.runOpened Scripted.client .switchedOn
          ⟨.empty, [.error (.cancelled "")]⟩ body).2 = none := by
  constructor
  · obtain ⟨r, reports, transparent⟩ := (startup_ping_is_transparent Scripted.client .switchedOn rfl
      ⟨.empty, [.error (.system .refused "refused")]⟩ ⟨.empty, []⟩ _ rfl).1 (.inr rfl)
    exact ⟨r, reports, transparent.sameCourse⟩
  · have fatal : ¬ Tolerated (.error (.cancelled "")) := by
      simp [Tolerated, Failure.isStore, Failure.isSystem]
    exact (startup_ping_is_transparent Scripted.client .switchedOn rfl
      ⟨.empty, [.error (.cancelled "")]⟩ ⟨.empty, []⟩ _ rfl).2 fatal

end GatedCache.Cache
