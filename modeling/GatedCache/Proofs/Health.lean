import GatedCache.Proofs.Opening
import GatedCache.Service

/-!
Who calls a store live. The probe at opening, the ping of an open cache and the health of the cache
in a service all send the same command and judge what came of it. The probe and the service count
every reply as a sign of life; the ping gives the truth of the reply.
-/
namespace GatedCache

namespace Cache

variable {σ : Type}

theorem probe_true_iff (client : Client σ) (s : Settings) (state : σ) :
    (probe client s state).result = .ok true ↔
      ∃ reply, (client.answer state .ping).1 = .ok reply := by
  rw [result_probe]
  cases (client.answer state .ping).1 with
  | ok reply => simp
  | error e => cases store : e.isStore <;> cases system : e.isSystem <;> simp [store, system]

theorem probe_false_iff (client : Client σ) (s : Settings) (state : σ) :
    (probe client s state).result = .ok false ↔
      ∃ e, (client.answer state .ping).1 = .error e ∧ (e.isStore = true ∨ e.isSystem = true) := by
  rw [result_probe]
  cases (client.answer state .ping).1 with
  | ok reply => simp
  | error e => cases store : e.isStore <;> cases system : e.isSystem <;> simp [store, system]

/-- What the ping of a cache that is open comes to. -/
def pinged (client : Client σ) (ttl : Int) (state : σ) : Outcome :=
  (perform client (live ttl false) state .ping).result

theorem pinged_of_reply (client : Client σ) (ttl : Int) (state : σ) {reply : Value}
    (answered : (client.answer state .ping).1 = .ok reply) :
    pinged client ttl state = .ok (.bool reply.truth) := by
  rw [pinged, result_perform_open, Operation.command, answered]
  rfl

theorem pinged_of_failure (client : Client σ) (ttl : Int) (state : σ) {e : Failure}
    (failed : (client.answer state .ping).1 = .error e) :
    pinged client ttl state =
      .error (if e.isStore then .operation "ping" none (some e) else e) := by
  rw [pinged, result_perform_open, Operation.command, failed]
  simp only [settle]
  split <;> rfl

theorem pinged_ok_iff (client : Client σ) (ttl : Int) (state : σ) (v : Value) :
    pinged client ttl state = .ok v ↔
      ∃ reply, (client.answer state .ping).1 = .ok reply ∧ .bool reply.truth = v := by
  cases asked : (client.answer state .ping).1 with
  | ok reply =>
    rw [pinged_of_reply client ttl state asked]
    simp
  | error e =>
    rw [pinged_of_failure client ttl state asked]
    simp

end Cache

namespace Service

variable {σ : Type}

/-- The request was answered with 200, and the cache was called healthy. -/
structure Healthy (reply : Reply) : Prop where
  raised : reply.raised = none
  status : reply.response.status = 200
  body : reply.response.body =
    .object (.object [("status", .text "healthy"), ("enabled", .bool true)])

/-- The request was answered with 503, and the detail is that failure of the cache. -/
structure Unavailable (e : Failure) (reply : Reply) : Prop where
  own : e.isCache = true
  raised : reply.raised = none
  status : reply.response.status = 503
  body : reply.response.body =
    .object (.object [("detail", .object [("error", Value.ofText? e.code),
      ("message", .text e.text), ("details", .object e.details)])])

theorem healthy_pingReply_iff (o : Outcome) :
    Healthy (pingReply o).1 ↔ ∃ reply, o = .ok reply := by
  constructor
  · intro healthy
    cases o with
    | ok reply => exact ⟨reply, rfl⟩
    | error e =>
      have status := healthy.status
      simp only [pingReply] at status
      split at status <;> cases status
  · rintro ⟨reply, rfl⟩
    exact ⟨rfl, rfl, rfl⟩

theorem unavailable_pingReply {e : Failure} (own : e.isCache = true) :
    Unavailable e (pingReply (.error e)).1 := by
  simp only [pingReply, own, if_true]
  exact ⟨own, rfl, rfl, rfl⟩

/-- A request for the health of a cache that is open is answered from the ping of this cache. -/
theorem handle_cacheHealth (client : Client σ) (time : String) (a : Service σ) (r : Request)
    (ttl : Int) (inUse : a.cache = some (.live ttl false)) (method : r.method = "GET")
    (path : r.path = "/health/cache") :
    (a.handle client time r).result = (pingReply (Cache.pinged client ttl a.state)).1 := by
  have routed : route r.method r.path = .endpoint .cacheHealth := by
    rw [method, path]
    decide
  simp only [handle, routed, checkCache, inUse]
  rfl

/-- With a cache that is open, and for every outcome of the ping that is a reply, a fault of the
store or a fault of the system: the probe says that the store is there exactly if the ping of the
cache gives a result, and exactly if the service calls the cache healthy; the result is true exactly
if the reply is. Faults of the system apart, the probe says that the store is not there exactly if
the ping fails and the service reports its failure. A reply that is not true is a sign of life all
the same, for the probe and for the service, and the ping gives its truth. -/
theorem probe_agrees_with_health (client : Client σ) (s : Settings) (time : String) (a : Service σ)
    (r : Request) (ttl : Int) (inUse : a.cache = some (.live ttl false)) (method : r.method = "GET")
    (path : r.path = "/health/cache")
    (known : Cache.Tolerated (client.answer a.state .ping).1) :
    ((Cache.probe client s a.state).result = .ok true ↔
        ∃ v, Cache.pinged client ttl a.state = .ok v) ∧
      ((Cache.probe client s a.state).result = .ok true ↔
        Healthy (a.handle client time r).result) ∧
      (Cache.pinged client ttl a.state = .ok (.bool true) ↔
        ∃ reply, (client.answer a.state .ping).1 = .ok reply ∧ reply.truth = true) ∧
      ((∀ e, (client.answer a.state .ping).1 = .error e → e.isSystem = false) →
        ((Cache.probe client s a.state).result = .ok false ↔
          ∃ e, Cache.pinged client ttl a.state = .error e ∧
            Unavailable e (a.handle client time r).result)) ∧
      ∀ reply, (client.answer a.state .ping).1 = .ok reply →
        (Cache.probe client s a.state).result = .ok true ∧
          Healthy (a.handle client time r).result ∧
          Cache.pinged client ttl a.state = .ok (.bool reply.truth) := by
  rw [handle_cacheHealth client time a r ttl inUse method path, Cache.probe_true_iff,
    Cache.probe_false_iff, healthy_pingReply_iff]
  have answered : (∃ reply, (client.answer a.state .ping).1 = .ok reply) ↔
      ∃ v, Cache.pinged client ttl a.state = .ok v := by
    constructor
    · rintro ⟨reply, asked⟩
      exact ⟨_, Cache.pinged_of_reply client ttl a.state asked⟩
    · rintro ⟨v, result⟩
      obtain ⟨reply, asked, _⟩ := (Cache.pinged_ok_iff client ttl a.state v).mp result
      exact ⟨reply, asked⟩
  refine ⟨answered, answered, ?_, ?_, ?_⟩
  · simp only [Cache.pinged_ok_iff, Value.bool.injEq]
  · intro outside
    constructor
    · rintro ⟨e, asked, fault⟩
      have store : e.isStore = true := by
        rcases fault with store | system
        · exact store
        · rw [outside e asked] at system
          cases system
      have result := Cache.pinged_of_failure client ttl a.state asked
      rw [store, if_pos rfl] at result
      rw [result]
      exact ⟨_, rfl, unavailable_pingReply rfl⟩
    · rintro ⟨f, result, _⟩
      cases asked : (client.answer a.state .ping).1 with
      | ok reply =>
        rw [Cache.pinged_of_reply client ttl a.state asked] at result
        cases result
      | error e =>
        rw [asked] at known
        exact ⟨e, rfl, known⟩
  · intro reply asked
    have result := Cache.pinged_of_reply client ttl a.state asked
    exact ⟨⟨reply, asked⟩, ⟨_, result⟩, result⟩

/-- A service whose cache is open and whose store has its next outcome laid down. -/
def awaiting (o : Outcome) : Service Scripted :=
  ⟨.switchedOn, some (.live 3600 false), ⟨.empty, [o]⟩, .fresh⟩

def cacheHealthRequest : Request := ⟨"http://testserver", "GET", "/health/cache", some "full=1"⟩

/-- A store that is still loading its data is there neither for the probe nor for the service. -/
theorem loading_store_is_unavailable :
    (Cache.probe Scripted.client .switchedOn
        (awaiting (.error (.store .busyLoading "loading"))).state).result = .ok false ∧
      ∃ e, Cache.pinged Scripted.client 3600
          (awaiting (.error (.store .busyLoading "loading"))).state = .error e ∧
        Unavailable e ((awaiting (.error (.store .busyLoading "loading"))).handle
          Scripted.client "" cacheHealthRequest).result := by
  have agrees := probe_agrees_with_health Scripted.client .switchedOn ""
    (awaiting (.error (.store .busyLoading "loading"))) cacheHealthRequest 3600 rfl rfl rfl
    (Or.inl rfl)
  have absent : (Cache.probe Scripted.client .switchedOn
      (awaiting (.error (.store .busyLoading "loading"))).state).result = .ok false := rfl
  refine ⟨absent, (agrees.2.2.2.1 ?_).mp absent⟩
  intro e asked
  cases asked
  rfl

/-- The three do not agree without these conditions: a reply of zero is a sign of life for the probe
and not for the ping, and a fault of the system is none for the probe but no reason for the service
to report the store as unavailable. -/
theorem zero_reply_and_system_fault_divide :
    ¬ ((Cache.probe Scripted.client .switchedOn (awaiting (.ok (.int 0))).state).result = .ok true ↔
        Cache.pinged Scripted.client 3600 (awaiting (.ok (.int 0))).state = .ok (.bool true)) ∧
      ¬ ((Cache.probe Scripted.client .switchedOn
            (awaiting (.error (.system .general "unreachable"))).state).result = .ok false ↔
          ∃ e, Unavailable e ((awaiting (.error (.system .general "unreachable"))).handle
            Scripted.client "" cacheHealthRequest).result) := by
  constructor
  · intro agree
    have result := agree.mp rfl
    cases result
  · intro agree
    obtain ⟨e, reported⟩ := agree.mp rfl
    cases reported.status

end Service
end GatedCache
