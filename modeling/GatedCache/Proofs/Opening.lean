import GatedCache.Cache.Scope
import GatedCache.Proofs.RoundTrip

/-!
What opening a cache comes to. A disabled cache opens without a call. A live one asks its store
once, and opens exactly if the outcome is a reply, a fault of the store or a fault of the system.
-/
namespace GatedCache

def Settings.switchedOn : Settings :=
  { mode := .development
    serviceName := "lms-cache"
    serviceVersion := "0.1.0"
    redisEnabled := true
    redisHost := "localhost"
    redisPort := 6379
    redisPassword := none
    redisDb := 0
    redisTtl := 3600
    redisMaxAttempts := 3
    redisConnectTimeout := Binary64.ofInt 5
    redisSocketTimeout := none
    logLevel := .info
    logJson := true }

example : Settings.load ⟨[("REDIS_ENABLED", .bool true)], [], none⟩ = .ok .switchedOn := rfl

namespace Cache

variable {σ : Type}

/-- An outcome of the first ping that does not prevent the opening. -/
def Tolerated : Outcome → Prop
  | .ok _ => True
  | .error e => e.isStore = true ∨ e.isSystem = true

theorem calls_probe (client : Client σ) (s : Settings) (state : σ) :
    calls (probe client s state).trace = [.ping] := by
  unfold probe
  split
  · rfl
  · split <;> rfl

theorem state_probe (client : Client σ) (s : Settings) (state : σ) :
    (probe client s state).state = (client.answer state .ping).2 := by
  unfold probe
  obtain ⟨outcome, later⟩ := client.answer state .ping
  cases outcome with
  | ok reply => rfl
  | error e => by_cases known : (e.isStore || e.isSystem) = true <;> simp [known]

theorem result_probe (client : Client σ) (s : Settings) (state : σ) :
    (probe client s state).result = match (client.answer state .ping).1 with
      | .ok _ => .ok true
      | .error e => if e.isStore || e.isSystem then .ok false else .error e := by
  unfold probe
  obtain ⟨outcome, later⟩ := client.answer state .ping
  cases outcome with
  | ok reply => rfl
  | error e => by_cases known : (e.isStore || e.isSystem) = true <;> simp [known]

theorem probe_ok_iff (client : Client σ) (s : Settings) (state : σ) :
    (∃ b, (probe client s state).result = .ok b) ↔ Tolerated (client.answer state .ping).1 := by
  rw [result_probe]
  cases (client.answer state .ping).1 with
  | ok reply => simp [Tolerated]
  | error e =>
    cases store : e.isStore <;> cases system : e.isSystem <;> simp [Tolerated, store, system]

theorem openWith_disabled (client : Client σ) (s : Settings) (state : σ)
    (off : s.redisEnabled = false) :
    openWith client s state = ⟨.ok (disabled s.redisTtl), state, [.log disabledRecord]⟩ := by
  simp [openWith, create, off, isEnabled]

theorem openWith_enabled (client : Client σ) (s : Settings) (state : σ)
    (on : s.redisEnabled = true) :
    openWith client s state =
      ⟨(probe client s state).result.map fun _ => live s.redisTtl false,
        (probe client s state).state, (probe client s state).trace⟩ := by
  simp [openWith, create, on, isEnabled]

theorem opened_cache (client : Client σ) (s : Settings) (state : σ) (cache : Cache)
    (opened : (openWith client s state).result = .ok cache) : cache = (create s).1 := by
  cases on : s.redisEnabled with
  | false =>
    rw [openWith_disabled client s state on] at opened
    cases opened
    simp [create, on]
  | true =>
    rw [openWith_enabled client s state on] at opened
    cases asked : (probe client s state).result with
    | ok b =>
      simp only [asked, Except.map] at opened
      cases opened
      simp [create, on]
    | error e =>
      simp only [asked, Except.map] at opened
      cases opened

theorem enterOpening_ok_iff (client : Client σ) (s : Settings) (state : σ) (cache : Cache) :
    (enterOpening client s state).result = .ok cache ↔
      (openWith client s state).result = .ok cache := by
  simp only [enterOpening]
  cases (openWith client s state).result with
  | ok opened => exact Iff.rfl
  | error e =>
    constructor
    · intro impossible
      cases impossible
    · intro impossible
      cases impossible

end Cache
end GatedCache
