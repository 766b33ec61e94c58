import Mathlib.Algebra.Order.Field.Rat
import Mathlib.Algebra.Order.Field.Power
import GatedCache.Proofs.Loading
import GatedCache.Proofs.Opening

/-!
Bounds of accepted settings. Each field is checked after it was read, so the bounds hold of what the
settings keep and not only of what was given, whatever source and form it came in. A connection that
is made from accepted settings has what they say, and tries a request again between no time and nine
times.
-/
namespace GatedCache

namespace Binary64

/-- The number that a finite value is. -/
def toRat (x : Binary64) : ℚ :=
  (if x.isNegative then -1 else 1) * (x.significand * 2 ^ x.exponent)

structure AboveZero (x : Binary64) : Prop where
  defined : x.isNaN = false
  above : x = infinity ∨ x.isFinite = true ∧ 0 < x.toRat

theorem significand_eq_zero_iff (x : Binary64) : x.significand = 0 ↔ x.isZero = true := by
  simp only [significand, isZero, beq_iff_eq]
  by_cases small : x.magnitudeWord / exponentUnit = 0
  · rw [if_pos small]
    simp only [exponentUnit] at *
    omega
  · rw [if_neg small]
    simp only [exponentUnit] at *
    omega

theorem eq_infinity_of_unsigned {x : Binary64} (unsigned : x.isNegative = false)
    (infinite : x.isInfinite = true) : x = infinity := by
  obtain ⟨bits⟩ := x
  simp only [isNegative, decide_eq_false_iff_not, isInfinite, beq_iff_eq, magnitudeWord] at *
  have word : bits.toNat = infinityWord := by
    rw [← infinite, Nat.mod_eq_of_lt (by omega)]
  simp only [infinity, ofWord, ← word, UInt64.ofNat_toNat]

theorem toRat_pos_iff (x : Binary64) :
    0 < x.toRat ↔ x.isNegative = false ∧ x.isZero = false := by
  have scale : (0 : ℚ) < 2 ^ x.exponent := zpow_pos rfl _
  have digits : (0 : ℚ) < x.significand ↔ x.isZero = false := by
    rw [Nat.cast_pos, Nat.pos_iff_ne_zero, ne_eq, significand_eq_zero_iff, Bool.not_eq_true]
  have size : 0 < (x.significand : ℚ) * 2 ^ x.exponent ↔ x.isZero = false := by
    rw [mul_pos_iff_of_pos_right scale, digits]
  cases sign : x.isNegative with
  | false => simp only [toRat, sign, Bool.false_eq_true, if_false, one_mul, size, true_and]
  | true =>
    have below : (-1 : ℚ) * (x.significand * 2 ^ x.exponent) ≤ 0 := by
      rw [neg_one_mul, neg_nonpos]
      exact mul_nonneg (Nat.cast_nonneg _) scale.le
    simp only [toRat, sign, if_true, not_lt.mpr below, Bool.true_eq_false, false_and]

theorem finite_or_infinite {x : Binary64} (defined : x.isNaN = false) :
    x.isFinite = true ∨ x.isInfinite = true := by
  simp only [isNaN, isFinite, isInfinite, decide_eq_false_iff_not, decide_eq_true_eq,
    beq_iff_eq] at *
  omega

theorem isPositive_iff (x : Binary64) : x.isPositive = true ↔ x.AboveZero := by
  simp only [isPositive, Bool.and_eq_true, Bool.not_eq_true']
  constructor
  · rintro ⟨⟨unsigned, defined⟩, filled⟩
    refine ⟨defined, ?_⟩
    rcases finite_or_infinite defined with finite | infinite
    · exact .inr ⟨finite, (toRat_pos_iff x).mpr ⟨unsigned, filled⟩⟩
    · exact .inl (eq_infinity_of_unsigned unsigned infinite)
  · rintro ⟨defined, rfl | ⟨_, above⟩⟩
    · decide
    · obtain ⟨unsigned, filled⟩ := (toRat_pos_iff x).mp above
      exact ⟨⟨unsigned, defined⟩, filled⟩

end Binary64

theorem Mode.name_of_ofName? {s : String} {m : Mode} (found : ofName? s = some m) : m.name = s := by
  unfold ofName? at found
  have named := List.find?_some found
  exact eq_of_beq named

theorem Log.Level.name_of_ofName? {s : String} {l : Level} (found : ofName? s = some l) :
    l.name = s := by
  unfold ofName? at found
  have named := List.find?_some found
  exact eq_of_beq named

namespace Settings

/-- What is read and then refused under a condition is accepted as read, if it does not meet it. -/
theorem guarded_eq_ok_iff {α : Type} {read : Except Fault α} {refused : α → Prop}
    [DecidablePred refused] {why : Fault} {a : α} :
    read.bind (fun a => if refused a then .error why else .ok a) = .ok a ↔
      read = .ok a ∧ ¬ refused a := by
  cases read with
  | error e => simp [Except.bind]
  | ok b =>
    simp only [Except.bind, Except.ok.injEq]
    split
    · rename_i met
      simp only [reduceCtorEq, false_iff]
      rintro ⟨rfl, unmet⟩
      exact unmet met
    · rename_i unmet
      simp only [Except.ok.injEq]
      constructor
      · rintro rfl
        exact ⟨rfl, unmet⟩
      · exact And.left

theorem readAtLeast_eq_ok_iff {least i : Int} {v : Value} :
    readAtLeast least v = .ok i ↔ readInteger v = .ok i ∧ least ≤ i := by
  have steps : readAtLeast least v =
      (readInteger v).bind fun i => if i < least then .error (.below least) else .ok i := by
    unfold readAtLeast
    cases readInteger v <;> rfl
  rw [steps, guarded_eq_ok_iff, Int.not_lt]

theorem readBetween_eq_ok_iff {least greatest i : Int} {v : Value} :
    readBetween least greatest v = .ok i ↔
      readInteger v = .ok i ∧ least ≤ i ∧ i ≤ greatest := by
  have steps : readBetween least greatest v = (readAtLeast least v).bind fun i =>
      if greatest < i then .error (.above greatest) else .ok i := by
    unfold readBetween
    cases readAtLeast least v <;> rfl
  rw [steps, guarded_eq_ok_iff, Int.not_lt, readAtLeast_eq_ok_iff, and_assoc]

theorem readPositive_eq_ok_iff {v : Value} {x : Binary64} :
    readPositive v = .ok x ↔ readNumber v = .ok x ∧ x.AboveZero := by
  have steps : readPositive v = (readNumber v).bind fun x =>
      if ¬ x.isPositive = true then .error .notPositive else .ok x := by
    unfold readPositive
    cases readNumber v with
    | error e => rfl
    | ok x => simp only [Except.bind, ite_not]
  rw [steps, guarded_eq_ok_iff, not_not, Binary64.isPositive_iff]

theorem aboveZero_of_readPositive? {v : Value} {x : Binary64}
    (accepted : readPositive? v = .ok (some x)) : x.AboveZero := by
  have given : (readPositive v).map some = .ok (some x) := by
    cases v with
    | null => cases accepted
    | _ => exact accepted
  cases read : readPositive v with
  | error e =>
    rw [read] at given
    cases given
  | ok y =>
    rw [read] at given
    cases given
    exact (readPositive_eq_ok_iff.mp read).2

theorem name_of_readMode {v : Value} {m : Mode} (accepted : readMode v = .ok m) :
    readText v = .ok m.name := by
  unfold readMode at accepted
  cases read : readText v with
  | error e =>
    rw [read] at accepted
    cases accepted
  | ok s =>
    cases found : Mode.ofName? s with
    | none => simp [read, found] at accepted
    | some n =>
      simp only [read, found, Except.ok.injEq] at accepted
      subst accepted
      rw [Mode.name_of_ofName? found]

theorem name_of_readLevel {v : Value} {l : Log.Level} (accepted : readLevel v = .ok l) :
    ∃ given, readText v = .ok given ∧ Text.upperCase given = l.name := by
  unfold readLevel at accepted
  cases read : readText v with
  | error e =>
    rw [read] at accepted
    cases accepted
  | ok s =>
    cases found : Log.Level.ofName? (Text.upperCase s) with
    | none => simp [read, found] at accepted
    | some k =>
      simp only [read, found, Except.ok.injEq] at accepted
      subst accepted
      exact ⟨s, rfl, (Log.Level.name_of_ofName? found).symm⟩

/-- The bounds of settings that were accepted from those sources. -/
structure WithinBounds (s : Sources) (x : Settings) : Prop where
  mode : ∃ name ∈ ["development", "test", "staging", "production"],
    readText (s.raw .environment) = .ok name ∧ x.shown .environment = .text name
  level : ∃ name ∈ ["DEBUG", "INFO", "WARNING", "ERROR", "CRITICAL"],
    (∃ given, readText (s.raw .logLevel) = .ok given ∧ Text.upperCase given = name) ∧
      x.shown .logLevel = .text name
  tcpPort : 1 ≤ x.redisPort ∧ x.redisPort ≤ 65535
  database : 0 ≤ x.redisDb
  ttl : 1 ≤ x.redisTtl
  attempts : 1 ≤ x.redisMaxAttempts ∧ x.redisMaxAttempts ≤ 10
  connectTimeout : x.redisConnectTimeout.AboveZero
  socketTimeout : ∀ timeout, x.redisSocketTimeout = some timeout → timeout.AboveZero
  oneMode : ¬ (x.isDevelopment = true ∧ x.isProduction = true)

theorem withinBounds_of_load {s : Sources} {x : Settings} (loaded : load s = .ok x) :
    WithinBounds s x := by
  rw [load_eq_ok_iff] at loaded
  obtain ⟨mode, _, _, _, _, place, _, db, ttl, attempts, connect, socket, level, _⟩ := loaded
  constructor
  · refine ⟨x.mode.name, ?_, name_of_readMode mode, rfl⟩
    cases x.mode <;> simp [Mode.name]
  · refine ⟨x.logLevel.name, ?_, name_of_readLevel level, rfl⟩
    cases x.logLevel <;> simp [Log.Level.name]
  · exact (readBetween_eq_ok_iff.mp place).2
  · exact (readAtLeast_eq_ok_iff.mp db).2
  · exact (readAtLeast_eq_ok_iff.mp ttl).2
  · exact (readBetween_eq_ok_iff.mp attempts).2
  · exact (readPositive_eq_ok_iff.mp connect).2
  · intro timeout given
    rw [given] at socket
    exact aboveZero_of_readPositive? socket
  · rintro ⟨development, production⟩
    rw [isDevelopment, beq_iff_eq] at development
    rw [isProduction, beq_iff_eq, development] at production
    cases production

/-- A connection that has what the settings say of it, and a number of retries that is one. -/
structure Carries (x : Settings) (c : Connection) : Prop where
  host : c.host = x.redisHost
  tcpPort : c.tcpPort = x.redisPort
  database : c.database = x.redisDb
  password : c.password = x.redisPassword
  connectTimeout : c.connectTimeout = x.redisConnectTimeout
  socketTimeout : c.socketTimeout = x.redisSocketTimeout
  retries : c.retries = x.redisMaxAttempts - 1
  counted : 0 ≤ c.retries ∧ c.retries ≤ 9

/-- Whatever the sources, accepted settings are within bounds, make a connection that carries them,
and make a cache: an open one, with one connection, if the store is enabled. -/
theorem accepted_settings_are_usable (s : Sources) (x : Settings) (loaded : load s = .ok x) :
    WithinBounds s x ∧ Carries x (Connection.ofSettings x) ∧
      ((Cache.create x).1, Cache.connectionsMade x false) =
        if x.redisEnabled then (.live x.redisTtl false, 1) else (.disabled x.redisTtl, 0) := by
  have bounds := withinBounds_of_load loaded
  obtain ⟨least, greatest⟩ := bounds.attempts
  refine ⟨bounds, ⟨rfl, rfl, rfl, rfl, rfl, rfl, rfl, ?_⟩, ?_⟩
  · simp only [Connection.ofSettings]
    omega
  · cases on : x.redisEnabled <;> simp [Cache.create, Cache.connectionsMade, on]

/-- Forms that are far from the plain ones: a number given as true and one given in bytes with a sign,
an underscore and a fraction, no limit, and a level with a dotless letter. -/
def unusualSources : Sources where
  keywords := [("REDIS_PORT", .bool true), ("REDIS_MAX_ATTEMPTS", .bytes [43, 49, 95, 48, 46, 48])]
  environment := [("REDIS_ENABLED", "oN"), ("REDIS_CONNECT_TIMEOUT", " +Infinity")]
  file := some "LOG_LEVEL=ınfo"

def unusualSettings : Settings :=
  { switchedOn with
    redisPort := 1
    redisMaxAttempts := 10
    redisConnectTimeout := Binary64.infinity }

theorem unusual_sources_are_usable :
    load unusualSources = .ok unusualSettings ∧ WithinBounds unusualSources unusualSettings ∧
      (Connection.ofSettings unusualSettings).retries = 9 ∧
      (Cache.create unusualSettings).1 = .live 3600 false := by
  have loaded : load unusualSources = .ok unusualSettings := rfl
  obtain ⟨bounds, carries, made⟩ := accepted_settings_are_usable _ _ loaded
  exact ⟨loaded, bounds, carries.retries, congrArg Prod.fst made⟩

end Settings
end GatedCache
