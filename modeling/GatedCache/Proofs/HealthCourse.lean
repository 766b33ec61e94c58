import GatedCache.Proofs.Course
import GatedCache.Proofs.Ending
import GatedCache.Proofs.Release

/-!
A service that is watched: it is started, asked for its health and for that of its cache, in any
order and as often as one likes, and stopped. Over an enabled store the whole run sends one ping at
the start, one for each time the cache is asked for, and a close at the stop; each answer depends on
nothing but its own ping. Over a disabled one the store is never called.
-/
namespace GatedCache

variable {σ : Type}

namespace Client

/-- The state of a client that answered so many pings, one after the other. -/
def afterPings (client : Client σ) (state : σ) : Nat → σ
  | 0 => state
  | n + 1 => (client.answer (client.afterPings state n) .ping).2

def pingOutcome (client : Client σ) (state : σ) (n : Nat) : Outcome :=
  (client.answer (client.afterPings state n) .ping).1

/-- The pings from one on, so many of them, come to replies or to faults of the store, and then the
client closes. -/
structure Behaves (client : Client σ) (state : σ) (first count : Nat) : Prop where
  pings : ∀ n, first ≤ n → n < first + count → ∀ e, client.pingOutcome state n = .error e →
    e.isStore = true
  closes : ∃ reply, (client.answer (client.afterPings state (first + count)) .close).1 = .ok reply

namespace Behaves

variable {client : Client σ} {state : σ} {first : Nat}

theorem later {count more : Nat} (behaves : Behaves client state first (count + more)) :
    Behaves client state (first + count) more := by
  constructor
  · intro n fromHere before
    exact behaves.pings n (by omega) (by omega)
  · rw [Nat.add_assoc]
    exact behaves.closes

theorem next {more : Nat} (behaves : Behaves client state first (1 + more)) {e : Failure}
    (failed : client.pingOutcome state first = .error e) : e.isStore = true :=
  behaves.pings first (by omega) (by omega) e failed

end Behaves
end Client

namespace Service

/-- A request for the health of the service or of its cache. -/
structure Inquiry where
  time : String
  endpoint : Endpoint
  origin : String
  query : Option String

namespace Inquiry

def request (q : Inquiry) : Request := ⟨q.origin, "GET", q.endpoint.path, q.query⟩

def moment (q : Inquiry) : Moment σ := .act q.time (.request q.request)

/-- How many pings a store that is enabled is sent for it. -/
def pings (q : Inquiry) : Nat :=
  match q.endpoint with
  | .health => 0
  | .cacheHealth => 1

end Inquiry

def pings : List Inquiry → Nat
  | [] => 0
  | q :: qs => q.pings + pings qs

def watch (opened closed : String) (qs : List Inquiry) : List (Moment σ) :=
  .act opened .start :: (qs.map Inquiry.moment ++ [.act closed .stop])

def json (status : Nat) (fields : List (String × Value)) : Reply :=
  ⟨⟨status, [("content-type", "application/json")], .object (.object fields)⟩, none⟩

def disabledReply : Reply := json 200 [("status", .text "disabled"), ("enabled", .bool false)]

/-- The answer for a cache that is enabled, from what came of its ping. -/
def enabledReply : Outcome → Reply
  | .ok _ => json 200 [("status", .text "healthy"), ("enabled", .bool true)]
  | .error e => json 503 [("detail", .object [("error", .text "CACHE_OPERATION_ERROR"),
      ("message", .text "Cache operation \x27ping\x27 failed"),
      ("details", .object [("operation", .text "ping"), ("original_error", .text e.text),
        ("original_error_type", .text e.name)])])]

def Inquiry.reply (s : Settings) (ofCache : Reply) (q : Inquiry) : Reply :=
  match q.endpoint with
  | .health => json 200 [("status", .text "healthy"), ("timestamp", .text q.time),
      ("service", .text s.serviceName), ("version", .text s.serviceVersion),
      ("environment", .text s.mode.name)]
  | .cacheHealth => ofCache

def Inquiry.calls (q : Inquiry) : List Command := List.replicate q.pings .ping

/-- What is answered for the cache, from what came of its ping if it is enabled. -/
def cacheReply (s : Settings) (own : Outcome) : Reply :=
  if s.redisEnabled then enabledReply own else disabledReply

/-- The calls of a store that get through: all if it is enabled, else none. -/
def through (s : Settings) (cs : List Command) : List Command := if s.redisEnabled then cs else []

theorem route_endpoint (e : Endpoint) : route "GET" e.path = .endpoint e := by
  cases e <;> decide

theorem handle_inquiry (client : Client σ) (a : Service σ) (q : Inquiry) :
    a.handle client q.time q.request =
      match q.endpoint with
      | .health => a.quiet (.ok (healthFields a.settings q.time))
      | .cacheHealth => a.checkCache client := by
  simp only [handle, Inquiry.request, route_endpoint]
  cases q.endpoint <;> rfl

theorem pingReply_settle {o : Outcome} (known : ∀ e, o = .error e → e.isStore = true) :
    (pingReply (Cache.settle .ping o)).1 = enabledReply o := by
  cases o with
  | ok reply => rfl
  | error e =>
    simp only [Cache.settle, known e rfl, if_true]
    rfl

theorem calls_pingReply (o : Outcome) : Cache.calls (pingReply o).2 = [] := by
  cases o with
  | ok reply => rfl
  | error e =>
    simp only [pingReply]
    split <;> rfl

section CheckCache

variable (client : Client σ) (a : Service σ) (ttl : Int)

theorem checkCache_disabled (off : a.cache = some (.disabled ttl)) :
    a.checkCache client = a.quiet disabledReply.response := by
  simp only [checkCache, off]
  rfl

variable (inUse : a.cache = some (.live ttl false))
include inUse

theorem result_checkCache : (a.checkCache client).result =
    (pingReply (Cache.settle .ping (client.answer a.state .ping).1)).1 := by
  simp only [checkCache, inUse]
  rfl

theorem service_checkCache : (a.checkCache client).service =
    { a with
      cache := some (.live ttl false)
      state := (client.answer a.state .ping).2 } := by
  simp only [checkCache, inUse]
  rfl

theorem calls_checkCache : Cache.calls (a.checkCache client).trace = [.ping] := by
  simp only [checkCache, inUse, Cache.isEnabled, if_true, Cache.calls_append, Cache.calls_perform,
    calls_pingReply, List.append_nil]
  rfl

end CheckCache

/-- A service that was started and not stopped, and whose client was sent so many pings. -/
structure Keeping (client : Client σ) (s : Settings) (state : σ) (n : Nat) (a : Service σ) :
    Prop where
  settings : a.settings = s
  cache : a.cache = some (Cache.create s).1
  state : s.redisEnabled = true → a.state = client.afterPings state n

structure Takes (client : Client σ) (s : Settings) (state : σ) (n : Nat) (answer : Answer)
    (sent : List Command) (step : Step σ Answer) : Prop where
  answer : step.result = answer
  sent : Cache.calls step.trace = sent
  keeps : Keeping client s state n step.service

section Watching

variable (client : Client σ) (s : Settings) (state : σ)

section Opening

variable (tolerated : s.redisEnabled = true → Cache.Tolerated (client.pingOutcome state 0))

theorem calls_opening :
    Cache.calls (Cache.enterOpening client s state).trace = through s [.ping] := by
  cases on : s.redisEnabled with
  | false =>
    simp only [Cache.enterOpening, Cache.openWith_disabled client s state on, through, on]
    rfl
  | true =>
    rw [Cache.calls_enterOpening client s state on, through, on, if_pos rfl]

theorem state_opening (on : s.redisEnabled = true) :
    (Cache.enterOpening client s state).state = client.afterPings state 1 := by
  simp only [Cache.enterOpening, Cache.openWith_enabled client s state on]
  exact Cache.state_probe client s state

include tolerated

theorem result_opening :
    (Cache.enterOpening client s state).result = .ok (Cache.create s).1 := by
  rw [Cache.enterOpening_ok_iff]
  cases on : s.redisEnabled with
  | false => simp [Cache.openWith_disabled client s state on, Cache.create, on]
  | true =>
    obtain ⟨b, asked⟩ := (Cache.probe_ok_iff client s state).mpr (tolerated on)
    simp [Cache.openWith_enabled client s state on, Cache.create, on, asked, Except.map]

theorem start_takes (time : String) (log : Log.Setup) :
    Takes client s state 1 (.ended (.ok ())) (through s [.ping])
      (act client time ⟨s, none, state, log⟩ .start) := by
  have opened := result_opening client s state tolerated
  constructor
  · simp only [act, Step.map, start, opened, Except.map]
  · simp only [act, Step.map, start, calls_opening]
  · constructor
    · simp only [act, Step.map, start]
    · simp only [act, Step.map, start, opened, Except.toOption, Option.some_or]
    · intro on
      simp only [act, Step.map, start, state_opening client s state on]

end Opening

variable {client s state} {n : Nat} {a : Service σ} (known : Keeping client s state n a)
include known

theorem cacheHealth_takes
    (faults : s.redisEnabled = true → ∀ e, client.pingOutcome state n = .error e → e.isStore = true) :
    Takes client s state (n + 1) (.replied (cacheReply s (client.pingOutcome state n)))
      (through s [.ping]) ((a.checkCache client).map .replied) := by
  have made := known.cache
  simp only [Cache.create] at made
  cases on : s.redisEnabled with
  | false =>
    rw [on, if_neg Bool.false_ne_true] at made
    rw [checkCache_disabled client a _ made, cacheReply, through, on]
    refine ⟨rfl, rfl, known.settings, known.cache, fun impossible => ?_⟩
    rw [on] at impossible
    cases impossible
  | true =>
    rw [on, if_pos rfl] at made
    constructor
    · rw [Step.map, result_checkCache client a _ made, known.state on, cacheReply, on, if_pos rfl]
      exact congrArg Answer.replied (pingReply_settle (faults on))
    · rw [Step.map, calls_checkCache client a _ made, through, on, if_pos rfl]
    · rw [Step.map, service_checkCache client a _ made, known.state on]
      refine ⟨known.settings, ?_, fun _ => rfl⟩
      simp only [Cache.create, on, if_true]

theorem inquiry_takes (q : Inquiry) {more : Nat}
    (behaves : s.redisEnabled = true → client.Behaves state n (q.pings + more)) :
    Takes client s state (n + q.pings)
      (.replied (q.reply s (cacheReply s (client.pingOutcome state n)))) (through s q.calls)
      (a.act client q.time (.request q.request)) := by
  rw [act, handle_inquiry]
  obtain ⟨time, endpoint, origin, query⟩ := q
  cases endpoint with
  | health =>
    simp only [known.settings]
    refine ⟨rfl, ?_, known⟩
    simp only [through, Inquiry.calls, Inquiry.pings, List.replicate_zero, ite_self]
    rfl
  | cacheHealth => exact cacheHealth_takes known fun on e failed => (behaves on).next failed

theorem stop_ends (time : String)
    (closes : s.redisEnabled = true →
      ∃ reply, (client.answer (client.afterPings state n) .close).1 = .ok reply) :
    (a.act client time .stop).result = .ended (.ok ()) ∧
      Cache.calls (a.act client time .stop).trace = through s [.close] := by
  have released : Cache.exitFailure? client ⟨.ok (), (Cache.create s).1, a.state, ()⟩ = none := by
    cases on : s.redisEnabled with
    | false => simp [Cache.exitFailure?, Cache.create, on]
    | true =>
      obtain ⟨reply, closed⟩ := closes on
      simp [Cache.exitFailure?, Cache.create, on, known.state on, closed]
  simp only [act, Step.map, stop, known.cache, Cache.leaveOpening]
  constructor
  · rw [Cache.result_leaveBy, released]
  · simp only [Cache.leaveBy, Cache.calls_perform]
    cases on : s.redisEnabled <;> simp [Cache.create, through, on, Cache.isOpen, Cache.Operation.command]

theorem course_inquiries (time : String) (qs : List Inquiry)
    (behaves : s.redisEnabled = true → client.Behaves state n (pings qs)) :
    (course client a (qs.map Inquiry.moment ++ [.act time .stop])).map Step.result =
        qs.mapIdx (fun i q => .replied (q.reply s
          (cacheReply s (client.pingOutcome state (n + pings (qs.take i)))))) ++
          [.ended (.ok ())] ∧
      (course client a (qs.map Inquiry.moment ++ [.act time .stop])).map
          (fun step => Cache.calls step.trace) =
        qs.map (fun q => through s q.calls) ++ [through s [.close]] := by
  induction qs generalizing n a with
  | nil =>
    obtain ⟨result, sent⟩ := stop_ends known time fun on => (behaves on).closes
    constructor
    · exact congrArg (fun answer => [answer]) result
    · exact congrArg (fun calls => [calls]) sent
  | cons q qs ih =>
    have taken := inquiry_takes known q behaves
    -- If the first inquiry was sent a ping, the pings of the others are counted from the next one.
    have rest := ih taken.keeps fun on => (behaves on).later
    simp only [List.map_cons, List.cons_append, Inquiry.moment, course] at rest ⊢
    constructor
    · rw [taken.answer, rest.1]
      simp only [List.mapIdx_cons, List.take_zero, List.take_succ_cons, pings, Nat.add_zero,
        Nat.add_assoc, List.cons_append]
    · rw [taken.sent]
      exact congrArg _ rest.2

end Watching

theorem create_eq_ok_iff (s : Settings) (state : σ) (a : Service σ) :
    create s state = .ok a ↔
      (s.serviceName ≠ "" ∧ s.serviceVersion ≠ "") ∧ ⟨s, none, state, .fresh⟩ = a := by
  simp only [create, String.isEmpty_iff]
  by_cases untitled : s.serviceName = ""
  · simp [untitled]
  · by_cases unversioned : s.serviceVersion = "" <;> simp [untitled, unversioned]

/-- The whole run of a service. Its settings need a name and a version for it, and nothing else. It
starts and stops without a failure. If the cache is enabled, its store is sent one ping at the start,
one for each inquiry about the cache and a close at the stop, and every inquiry about the cache is
answered from its own ping, whatever came of the others. If it is disabled, the store is never
called, and may be one that does not behave. -/
theorem inquiries_answered_from_own_pings (client : Client σ) (s : Settings) (state : σ)
    (opened closed : String) (qs : List Inquiry)
    (behaves : s.redisEnabled = true → client.Behaves state 0 (1 + pings qs)) :
    ((∃ a, create s state = .ok a) ↔ s.serviceName ≠ "" ∧ s.serviceVersion ≠ "") ∧
      ∀ a, create s state = .ok a →
        (course client a (watch opened closed qs)).map Step.result =
            .ended (.ok ()) :: qs.mapIdx (fun i q => .replied (q.reply s
              (cacheReply s (client.pingOutcome state (1 + pings (qs.take i)))))) ++
              [.ended (.ok ())] ∧
          (course client a (watch opened closed qs)).map (fun step => Cache.calls step.trace) =
            through s [.ping] :: qs.map (fun q => through s q.calls) ++ [through s [.close]] := by
  simp only [create_eq_ok_iff]
  refine ⟨⟨fun ⟨a, named, _⟩ => named, fun named => ⟨_, named, rfl⟩⟩, ?_⟩
  rintro a ⟨_, rfl⟩
  have tolerated (on : s.redisEnabled = true) : Cache.Tolerated (client.pingOutcome state 0) := by
    cases asked : client.pingOutcome state 0 with
    | ok reply => trivial
    | error e => exact .inl ((behaves on).next asked)
  have started := start_takes client s state tolerated opened .fresh
  have rest := course_inquiries started.keeps closed qs fun on => (behaves on).later
  constructor
  · simp only [watch, course, List.map_cons, started.answer, rest.1, List.cons_append]
  · simp only [watch, course, List.map_cons, started.sent, rest.2, List.cons_append]

def recovering : Scripted :=
  ⟨.empty, [.error (.store .connection "refused"), .ok (.bool true), .error (.store .timeout "slow"),
    .ok .null]⟩

def threeInquiries : List Inquiry :=
  [⟨"09:00", .cacheHealth, "http://testserver", none⟩, ⟨"09:01", .health, "http://testserver", none⟩,
    ⟨"09:02", .cacheHealth, "http://testserver", some "full=1"⟩]

theorem recovering_behaves : Scripted.client.Behaves recovering 0 (1 + pings threeInquiries) := by
  constructor
  · intro n _ before e failed
    have bound : n < 3 := before
    have which : n = 0 ∨ n = 1 ∨ n = 2 := by omega
    rcases which with rfl | rfl | rfl
    · cases failed
      rfl
    · cases failed
    · cases failed
      rfl
  · exact ⟨.null, rfl⟩

/-- The service starts although its store refuses the first ping, and calls its cache healthy and then
unavailable. -/
theorem recovering_store_is_watched :
    (course Scripted.client ⟨.switchedOn, none, recovering, .fresh⟩
        (watch "08:59" "09:03" threeInquiries)).map Step.result =
        [.ended (.ok ()), .replied (enabledReply (.ok (.bool true))),
          .replied (json 200 [("status", .text "healthy"), ("timestamp", .text "09:01"),
            ("service", .text "lms-cache"), ("version", .text "0.1.0"),
            ("environment", .text "development")]),
          .replied (enabledReply (.error (.store .timeout "slow"))), .ended (.ok ())] ∧
      (course Scripted.client ⟨.switchedOn, none, recovering, .fresh⟩
          (watch "08:59" "09:03" threeInquiries)).map (fun step => Cache.calls step.trace) =
        [[.ping], [.ping], [], [.ping], [.close]] := by
  have law := inquiries_answered_from_own_pings Scripted.client .switchedOn recovering "08:59" "09:03"
    threeInquiries fun _ => recovering_behaves
  exact law.2 _ rfl

end Service
end GatedCache
