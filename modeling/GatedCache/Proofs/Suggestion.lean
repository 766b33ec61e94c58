import GatedCache.Proofs.Bounds
import GatedCache.Proofs.DefaultTtl
import GatedCache.Proofs.Expiry

/-!
Whether the suggested time to live can be used. Settings ask only that it is at least one second; how
long an expiry can be is up to the store. So every suggestion up to the store's longest expiry works
on whatever the store holds, and every longer one is refused when it is used, not when it is
accepted.
-/
namespace GatedCache

namespace TtlMap

theorem present?_put_dated (m : TtlMap) (key value : String) {t : Int} (least : 1 ≤ t) :
    (m.put key (some ⟨value, some (m.now + t)⟩)).present? key =
      some ⟨value, some (m.now + t)⟩ := by
  have alive : m.now < m.now + t := by omega
  rw [present?_put, if_pos rfl, Option.filter_some, Entry.isLive_dated, decide_eq_true alive,
    if_pos rfl]

theorem call_set_fitting (m : TtlMap) (key value : String) {t : Int} (least : 1 ≤ t)
    (fits : t ≤ longest) :
    m.call (.set key value (some t)) =
      (.ok .null, m.put key (some ⟨value, some (m.now + t)⟩)) := by
  have dated : t ≠ 0 := by omega
  have range : 1 ≤ t ∧ t ≤ longest := ⟨least, fits⟩
  simp only [call, Option.getD_some, dated, range, and_self, if_false, if_true]

theorem now_put (m : TtlMap) (key : String) (e : Option Entry) : (m.put key e).now = m.now := rfl

theorem call_get_present {m : TtlMap} {key : String} {e : Entry}
    (found : m.present? key = some e) : m.call (.get key) = (.ok (.text e.value), m) := by
  simp only [call, found]

theorem call_ttl_present {m : TtlMap} {key value : String} {deadline : Int}
    (found : m.present? key = some ⟨value, some deadline⟩) :
    m.call (.ttl key) = (.ok (.int (deadline - m.now)), m) := by
  simp only [call, found]

end TtlMap

namespace Cache

/-- Sets a key for as long as the cache suggests. -/
def suggestedSet (cache : Cache) (key value : String) : Turn :=
  ⟨.perform (.set key value (some cache.defaultTtl)), []⟩

/-- The key is set, then read, then asked for the time it has left. -/
def SuggestionWorks (cache : Cache) (store : Store) (key value : String) : Prop :=
  (takeAll cache ⟨store, []⟩
      [cache.suggestedSet key value, ⟨.perform (.get key), []⟩, ⟨.perform (.ttl key), []⟩]).1.map
        Report.answer =
    [.outcome (.ok .null), .outcome (.ok (.text value)), .outcome (.ok (.int cache.defaultTtl))]

/-- Setting the key fails for the store's reason and leaves the store as it was. -/
structure SuggestionRefused (cache : Cache) (store : Store) (key value : String) : Prop where
  answer : ∃ f, (take cache ⟨store, []⟩ (cache.suggestedSet key value)).1.answer = .outcome (.error f) ∧
    f.name = "CacheOperationException" ∧ f.details.lookup "operation" = some (.text "set") ∧
    f.cause = some (.store .response "invalid expire time in \x27setex\x27 command")
  store : (take cache ⟨store, []⟩ (cache.suggestedSet key value)).2 = ⟨store, []⟩

theorem suggestionWorks_of_fitting (ttl : Int) (store : Store) (key value : String) (least : 1 ≤ ttl)
    (fits : ttl ≤ TtlMap.longest) : SuggestionWorks (live ttl false) store key value := by
  let moves : List Move :=
    [.call (.set key value (some ttl)) (by simp), .call (.get key) (by simp),
      .call (.ttl key) (by simp)]
  have agreed := takeAll_agrees ttl store (.ofStore store) (initial_agrees store) moves
  have found := (TtlMap.ofStore store).present?_put_dated key value least
  have left : (TtlMap.ofStore store).now + ttl - (TtlMap.ofStore store).now = ttl := by omega
  have mapped : ((TtlMap.ofStore store).run moves).1 =
      [.outcome (.ok .null), .outcome (.ok (.text value)), .outcome (.ok (.int ttl))] := by
    simp only [moves, TtlMap.run, TtlMap.move, TtlMap.call_set_fitting _ key value least fits,
      TtlMap.call_get_present found, TtlMap.call_ttl_present found, TtlMap.now_put, left]
  exact agreed.1.trans mapped

theorem suggestionRefused_of_longer (ttl : Int) (store : Store) (key value : String)
    (longer : TtlMap.longest < ttl) : SuggestionRefused (live ttl false) store key value := by
  have dated : ttl ≠ 0 := by
    simp only [TtlMap.longest] at longer
    omega
  have command : (Operation.set key value (some ttl)).command = .setFor key ttl value := by
    simp only [Operation.command, dated, if_false]
  have refused : Scripted.client.answer ⟨store, []⟩ (.setFor key ttl value) =
      (.error (Store.invalidExpiry "setex"), ⟨store, []⟩) := by
    have far : ttl ≤ 0 ∨ Store.longestExpiry < ttl := .inr longer
    simp only [Scripted.client, Scripted.answer, Store.answer, far, if_true]
  have taken : take (live ttl false) ⟨store, []⟩ ((live ttl false).suggestedSet key value) =
      (perform Scripted.client (live ttl false) ⟨store, []⟩ (.set key value (some ttl))).report := rfl
  constructor
  · refine ⟨.operation "set" (some key) (some (Store.invalidExpiry "setex")), ?_, rfl, rfl, rfl⟩
    rw [taken, Step.report, result_perform_open, command, refused]
    rfl
  · rw [taken, Step.report, state_perform, command, refused]
    rfl

/-- A cache made from accepted settings over any store: its suggestion works if it is no longer than
the longest expiry, and is refused otherwise. -/
theorem suggestion_works_up_to_longest (s : Settings.Sources) (x : Settings)
    (loaded : Settings.load s = .ok x) (on : x.redisEnabled = true) (store : Store)
    (key value : String) :
    (x.redisTtl ≤ TtlMap.longest → SuggestionWorks (create x).1 store key value) ∧
      (TtlMap.longest < x.redisTtl → SuggestionRefused (create x).1 store key value) := by
  have made : (create x).1 = live x.redisTtl false := by simp [create, on]
  have least : 1 ≤ x.redisTtl := (Settings.withinBounds_of_load loaded).ttl
  rw [made]
  exact ⟨suggestionWorks_of_fitting x.redisTtl store key value least,
    suggestionRefused_of_longer x.redisTtl store key value⟩

def switchedOnFor (ttl : Int) : Settings.Sources :=
  ⟨[("REDIS_ENABLED", .bool true), ("REDIS_TTL", .int ttl)], [], none⟩

/-- The longest suggestion that works, and the next one, on a store that holds the key for good. -/
theorem suggestion_at_the_limit :
    SuggestionWorks (create { Settings.switchedOn with redisTtl := 9223372036854775 }).1
        ⟨-5, [("seat", ⟨"free", none⟩)]⟩ "seat" "taken" ∧
      SuggestionRefused (create { Settings.switchedOn with redisTtl := 9223372036854776 }).1
        ⟨-5, [("seat", ⟨"free", none⟩)]⟩ "seat" "taken" :=
  ⟨(suggestion_works_up_to_longest (switchedOnFor 9223372036854775)
      { Settings.switchedOn with redisTtl := 9223372036854775 } rfl rfl _ _ _).1 (by decide),
    (suggestion_works_up_to_longest (switchedOnFor 9223372036854776)
      { Settings.switchedOn with redisTtl := 9223372036854776 } rfl rfl _ _ _).2 (by decide)⟩

/-- Settings may be accepted and suggest what their cache's store refuses. -/
theorem accepted_suggestion_may_not_work :
    ∃ x, Settings.load (switchedOnFor 9223372036854776) = .ok x ∧ x.redisEnabled = true ∧
      ¬ SuggestionWorks (create x).1 .empty "seat" "taken" := by
  refine ⟨{ Settings.switchedOn with redisTtl := 9223372036854776 }, rfl, rfl, ?_⟩
  intro works
  have first := congrArg List.head? works
  cases first

end Cache
end GatedCache
