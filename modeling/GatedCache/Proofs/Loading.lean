import GatedCache.Settings

/-!
What loading settings comes to, as a law for each outcome. It succeeds exactly with the settings
each of whose parts is what its own field reads as; the problems that it lists are those of the
fields, one after the other.
-/
namespace GatedCache.Settings

namespace Checked

variable {α β : Type}

def problems : Checked α → List Problem
  | .ok _ => []
  | .error ps => ps

theorem problems_map (g : α → β) (a : Checked α) : problems (a.map g) = a.problems := by
  cases a <;> rfl

theorem problems_and (f : Checked (α → β)) (a : Checked α) :
    (f.and a).problems = f.problems ++ a.problems := by
  cases f <;> cases a <;> simp [Checked.and, problems]

theorem map_eq_ok_iff {g : α → β} {a : Checked α} {b : β} :
    a.map g = .ok b ↔ ∃ x, a = .ok x ∧ g x = b := by
  cases a <;> simp [Except.map]

theorem map_ne_nil {g : α → β} {a : Checked α} (known : a ≠ .error []) :
    a.map g ≠ .error [] := by
  cases a with
  | ok x => simp [Except.map]
  | error ps => simpa [Except.map] using known

theorem and_ne_nil {f : Checked (α → β)} {a : Checked α} (left : f ≠ .error [])
    (right : a ≠ .error []) : f.and a ≠ .error [] := by
  cases f with
  | ok g => cases a <;> simp_all [Checked.and]
  | error ps => cases a <;> simp_all [Checked.and]

theorem and_eq_ok_iff {f : Checked (α → β)} {a : Checked α} {b : β} :
    f.and a = .ok b ↔ ∃ g x, f = .ok g ∧ a = .ok x ∧ g x = b := by
  cases f <;> cases a <;> simp [Checked.and]

end Checked

theorem check_eq_ok_iff {α : Type} {s : Sources} {f : Field} {read : Value → Except Fault α}
    {a : α} : check s f read = .ok a ↔ read (s.raw f) = .ok a := by
  unfold check
  cases read (s.raw f) <;> simp

theorem check_ne_nil {α : Type} (s : Sources) (f : Field) (read : Value → Except Fault α) :
    check s f read ≠ .error [] := by
  unfold check
  cases read (s.raw f) <;> simp

/-- Loading does not fail without a problem. -/
theorem load_ne_nil (s : Sources) : load s ≠ .error [] := by
  unfold load
  iterate 13 refine Checked.and_ne_nil ?_ (check_ne_nil s _ _)
  exact Checked.map_ne_nil (check_ne_nil s _ _)

/-- Loading succeeds exactly with what the fields read as, each from its own raw value. -/
theorem load_eq_ok_iff (s : Sources) (x : Settings) :
    load s = .ok x ↔
      readMode (s.raw .environment) = .ok x.mode ∧
      readText (s.raw .serviceName) = .ok x.serviceName ∧
      readText (s.raw .serviceVersion) = .ok x.serviceVersion ∧
      readFlag (s.raw .redisEnabled) = .ok x.redisEnabled ∧
      readText (s.raw .redisHost) = .ok x.redisHost ∧
      readBetween 1 65535 (s.raw .redisPort) = .ok x.redisPort ∧
      readPassword (s.raw .redisPassword) = .ok x.redisPassword ∧
      readAtLeast 0 (s.raw .redisDb) = .ok x.redisDb ∧
      readAtLeast 1 (s.raw .redisTtl) = .ok x.redisTtl ∧
      readBetween 1 10 (s.raw .redisMaxAttempts) = .ok x.redisMaxAttempts ∧
      readPositive (s.raw .redisConnectTimeout) = .ok x.redisConnectTimeout ∧
      readPositive? (s.raw .redisSocketTimeout) = .ok x.redisSocketTimeout ∧
      readLevel (s.raw .logLevel) = .ok x.logLevel ∧
      readFlag (s.raw .logJson) = .ok x.logJson := by
  constructor
  · intro loaded
    simp only [load, Checked.and_eq_ok_iff, Checked.map_eq_ok_iff, check_eq_ok_iff] at loaded
    obtain ⟨_, _, ⟨_, _, ⟨_, _, ⟨_, _, ⟨_, _, ⟨_, _, ⟨_, _, ⟨_, _, ⟨_, _, ⟨_, _, ⟨_, _, ⟨_, _, ⟨_, _,
      ⟨_, mode, rfl⟩, name, rfl⟩, version, rfl⟩, enabled, rfl⟩, host, rfl⟩, place, rfl⟩,
      password, rfl⟩, db, rfl⟩, ttl, rfl⟩, attempts, rfl⟩, connect, rfl⟩, socket, rfl⟩,
      level, rfl⟩, json, rfl⟩ := loaded
    exact ⟨mode, name, version, enabled, host, place, password, db, ttl, attempts, connect, socket,
      level, json⟩
  · rintro ⟨mode, name, version, enabled, host, place, password, db, ttl, attempts, connect, socket,
      level, json⟩
    simp only [load, check, mode, name, version, enabled, host, place, password, db, ttl, attempts,
      connect, socket, level, json]
    rfl

end GatedCache.Settings
