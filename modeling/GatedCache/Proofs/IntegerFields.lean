import GatedCache.Proofs.NumeralText
import GatedCache.Proofs.Resolution

/-!
Integers among the settings. Four fields hold an integer between bounds. A text that denotes an
integer does for such a field what the integer itself does, given as a string, in bytes or by a
variable; and no other text is accepted.
-/
namespace GatedCache.Settings

/-- The fields that hold an integer, with the least and the greatest that they accept. -/
inductive Bounded : Field → Int → Option Int → Prop where
  | tcpPort : Bounded .redisPort 1 (some 65535)
  | database : Bounded .redisDb 0 none
  | ttl : Bounded .redisTtl 1 none
  | attempts : Bounded .redisMaxAttempts 1 (some 10)

/-- What is wrong with an integer under these bounds, if anything is. -/
inductive Verdict (least : Int) (greatest : Option Int) (n : Int) : Option Fault → Prop where
  | within (enough : least ≤ n) (fits : ∀ limit, greatest = some limit → n ≤ limit) :
      Verdict least greatest n none
  | below (less : n < least) : Verdict least greatest n (some (.below least))
  | above {limit : Int} (limited : greatest = some limit) (more : limit < n) :
      Verdict least greatest n (some (.above limit))

/-- A raw value that is a text, as a string or in bytes. -/
inductive TextForm : Value → String → Prop where
  | text (t : String) : TextForm (.text t) t
  | bytes {bs : List UInt8} {t : String} (decoded : Value.decodeUtf8? bs = some t) :
      TextForm (.bytes bs) t

/-- The field takes its value from these sources as a text. -/
def GivesText (s : Sources) (f : Field) (t : String) : Prop :=
  ∃ v, Supplies s f v ∧ TextForm v t

theorem textForm_utf8 (t : String) : TextForm (.bytes t.toUTF8.data.toList) t := by
  apply TextForm.bytes
  have valid : t.toByteArray.IsValidUTF8 := t.isValidUTF8
  simp only [Value.decodeUtf8?, Array.toArray_toList, String.fromUTF8?, String.toUTF8_eq_toByteArray]
  rw [dif_pos valid]
  rfl

theorem readInteger_of_form {v : Value} {t : String} (form : TextForm v t) :
    readInteger v = integerText t := by
  cases form with
  | text t => rfl
  | bytes decoded => simp only [readInteger, decoded]

/-- An integer checked against bounds. -/
def checkBounds (least : Int) (greatest : Option Int) (n : Int) : Except Fault Value :=
  if n < least then .error (.below least)
  else match greatest with
    | none => .ok (.int n)
    | some limit => if limit < n then .error (.above limit) else .ok (.int n)

theorem checkBounds_verdict (least : Int) (greatest : Option Int) (n : Int) :
    (∃ e, Verdict least greatest n (some e) ∧ checkBounds least greatest n = .error e) ∨
      (Verdict least greatest n none ∧ checkBounds least greatest n = .ok (.int n)) := by
  unfold checkBounds
  by_cases less : n < least
  · exact .inl ⟨_, .below less, if_pos less⟩
  · have enough : least ≤ n := Int.not_lt.mp less
    rw [if_neg less]
    cases greatest with
    | none => exact .inr ⟨.within enough (by simp), rfl⟩
    | some limit =>
      by_cases more : limit < n
      · exact .inl ⟨_, .above rfl more, if_pos more⟩
      · refine .inr ⟨.within enough ?_, if_neg more⟩
        intro other same
        rw [← Option.some.inj same]
        exact Int.not_lt.mp more

theorem map_readAtLeast (least : Int) (v : Value) :
    (readAtLeast least v).map .int = (readInteger v).bind (checkBounds least none) := by
  unfold readAtLeast
  cases readInteger v with
  | error e => rfl
  | ok n =>
    simp only [Except.bind, checkBounds]
    split <;> rfl

theorem map_readBetween (least limit : Int) (v : Value) :
    (readBetween least limit v).map .int =
      (readInteger v).bind (checkBounds least (some limit)) := by
  unfold readBetween readAtLeast
  cases readInteger v with
  | error e => rfl
  | ok n =>
    by_cases less : n < least
    · simp only [Except.bind, checkBounds, if_pos less]
      rfl
    · simp only [Except.bind, checkBounds, if_neg less]
      split <;> rfl

section Fields

variable {f : Field} {least : Int} {greatest : Option Int} (bounded : Bounded f least greatest)
include bounded

theorem validated_of_bounded (v : Value) :
    validated f v = (readInteger v).bind (checkBounds least greatest) := by
  cases bounded with
  | tcpPort => exact map_readBetween 1 65535 v
  | database => exact map_readAtLeast 0 v
  | ttl => exact map_readAtLeast 1 v
  | attempts => exact map_readBetween 1 10 v

/-- Loading takes no more of such a field's raw value than the integer that it reads as. -/
theorem load_congr_integer {s u : Sources} (others : ∀ g, g ≠ f → u.raw g = s.raw g)
    (same : readInteger (u.raw f) = readInteger (s.raw f)) : load u = load s := by
  have checks : ∀ {α : Type} (g : Field) (read : Value → Except Fault α), g ≠ f →
      check u g read = check s g read := by
    intro α g read other
    rw [check, check, others g other]
  have own : ∀ least, check u f (readAtLeast least) = check s f (readAtLeast least) := by
    intro least
    simp only [check, readAtLeast, same]
  have ownBetween : ∀ least limit,
      check u f (readBetween least limit) = check s f (readBetween least limit) := by
    intro least limit
    simp only [check, readBetween, readAtLeast, same]
  cases bounded <;> simp (disch := decide) only [load, checks, own, ownBetween]

/-- A problem of the field is what the bounds say of the integer that its raw value reads as. -/
theorem problems_of_readInteger {s : Sources} {n : Int} (read : readInteger (s.raw f) = .ok n) :
    (∃ fault?, Verdict least greatest n fault? ∧
        ∀ e, ⟨f, e⟩ ∈ (load s).problems ↔ fault? = some e) ∧
      ∀ x, load s = .ok x → x.shown f = .int n := by
  have checked : validated f (s.raw f) = checkBounds least greatest n := by
    rw [validated_of_bounded bounded, read]
    rfl
  rcases checkBounds_verdict least greatest n with ⟨fault, verdict, refused⟩ | ⟨verdict, accepted⟩
  · refine ⟨⟨some fault, verdict, ?_⟩, ?_⟩
    · intro e
      rw [mem_problems_load_iff, checked, refused, Except.error.injEq, Option.some.injEq]
    · intro x loaded
      have held := validated_of_load loaded f
      rw [checked, refused] at held
      cases held
  · refine ⟨⟨none, verdict, ?_⟩, ?_⟩
    · intro e
      rw [mem_problems_load_iff, checked, accepted]
      simp
    · intro x loaded
      have held := validated_of_load loaded f
      rw [checked, accepted, Except.ok.injEq] at held
      exact held.symm

theorem denotes_of_validated {v w : Value} {t : String} (form : TextForm v t)
    (accepted : validated f v = .ok w) :
    ∃ n, Text.Denotes t.toList n ∧ (Nat.toDigits 10 n.natAbs).length ≤ numeralLimit ∧
      Verdict least greatest n none ∧ w = .int n := by
  rw [validated_of_bounded bounded, readInteger_of_form form] at accepted
  cases read : integerText t with
  | error e =>
    rw [read] at accepted
    cases accepted
  | ok n =>
    obtain ⟨denotes, short⟩ := (integerText_eq_ok_iff t n).mp read
    have checked : checkBounds least greatest n = .ok w := by
      rw [read] at accepted
      exact accepted
    rcases checkBounds_verdict least greatest n with ⟨fault, _, refused⟩ | ⟨verdict, passed⟩
    · rw [refused] at checked
      cases checked
    · rw [passed, Except.ok.injEq] at checked
      exact ⟨n, denotes, short, verdict, checked.symm⟩

end Fields

theorem sameOutside_keyword (s : Sources) (name : String) (v : Value) :
    SameOutside (· = name) s { s with keywords := (name, v) :: s.keywords } := by
  refine ⟨?_, [], by simp, sameOuter_nil rfl rfl⟩
  intro other outside
  have miss : (other == name) = false := beq_eq_false_iff_ne.mpr outside
  simp only [List.lookup_cons, miss]

/-- Loading comes to what it comes to with an integer in place of the field's own entries. -/
structure ConfiguresAs (s : Sources) (f : Field) (least : Int) (greatest : Option Int)
    (n : Int) : Prop where
  /-- The integer is given by keyword, before all other sources. -/
  overridden : load { s with keywords := (f.name, .int n) :: s.keywords } = load s
  /-- The integer is given by keyword in place of the text, and nothing else differs. If the text is
  that of a variable, no binding of another name may refer to it. -/
  replaced : ∀ u, u.keywords.lookup f.name = some (.int n) → SameOutside (· = f.name) s u →
    load u = load s
  problem : ∃ fault?, Verdict least greatest n fault? ∧
    ∀ e, ⟨f, e⟩ ∈ (load s).problems ↔ fault? = some e
  held : ∀ x, load s = .ok x → x.shown f = .int n

/-- For each field that holds an integer: a text that denotes an integer of at most 4300 digits has
the outcome of the integer itself, accepted or refused. A text that is accepted denotes an integer
within the bounds, and this is what the settings hold. -/
theorem text_configures_as_integer {f : Field} {least : Int} {greatest : Option Int}
    (bounded : Bounded f least greatest) :
    (∀ (n : Int) (t : String) (s : Sources), Text.Denotes t.toList n →
        (Nat.toDigits 10 n.natAbs).length ≤ 4300 → GivesText s f t →
        ConfiguresAs s f least greatest n) ∧
      ∀ (s : Sources) (t : String) (w : Value), GivesText s f t →
        validated f (s.raw f) = .ok w →
        ∃ n, Text.Denotes t.toList n ∧ (Nat.toDigits 10 n.natAbs).length ≤ 4300 ∧
          Verdict least greatest n none ∧ w = .int n ∧
          ∀ x, load s = .ok x → x.shown f = .int n := by
  constructor
  · rintro n t s denotes short ⟨v, supplied, form⟩
    have read : readInteger (s.raw f) = .ok n := by
      rw [raw_of_supplies supplied, readInteger_of_form form]
      exact (integerText_eq_ok_iff t n).mpr ⟨denotes, short⟩
    have replaced : ∀ u, u.keywords.lookup f.name = some (.int n) →
        SameOutside (· = f.name) s u → load u = load s := by
      intro u given same
      apply load_congr_integer bounded
      · intro g other
        exact raw_of_sameOutside same fun named => other (Field.name_injective named)
      · rw [read, raw_of_supplies (.keyword given)]
        rfl
    obtain ⟨problem, held⟩ := problems_of_readInteger bounded read
    refine ⟨?_, replaced, problem, held⟩
    apply replaced
    · simp
    · exact sameOutside_keyword s f.name (.int n)
  · rintro s t w ⟨v, supplied, form⟩ accepted
    have own : validated f v = .ok w := by
      rw [← raw_of_supplies supplied]
      exact accepted
    obtain ⟨n, denotes, short, verdict, rfl⟩ := denotes_of_validated bounded form own
    refine ⟨n, denotes, short, verdict, rfl, ?_⟩
    intro x loaded
    have held := validated_of_load loaded f
    rw [accepted, Except.ok.injEq] at held
    exact held.symm

/-- A variable with a no-break space, a sign, a zero in front, an underscore and a fraction. -/
def spacedSources : Sources where
  keywords := [("REDIS_DB", .bytes "-0".toUTF8.data.toList)]
  environment := [("REDIS_PORT", "\u00A0+065_536.0\n")]
  file := some "REDIS_PORT=6380\nREDIS_TTL=1__0"

/-- These sources with the integer as a keyword in place of the variable. -/
def plainSources : Sources where
  keywords := ("REDIS_PORT", .int 65536) :: spacedSources.keywords
  environment := []
  file := spacedSources.file

theorem sameOutside_plainSources : SameOutside (· = "REDIS_PORT") spacedSources plainSources := by
  refine ⟨(sameOutside_keyword spacedSources _ _).keywords, ["REDIS_PORT"], by simp, ?_, rfl, ?_⟩
  · intro n other
    simp only [List.mem_singleton] at other
    simp only [plainSources, spacedSources, List.lookup_cons, beq_false_of_ne other, List.lookup_nil]
  · apply EnvFile.unreferenced_of_referencedNames
    decide

theorem spaced_text_configures_as_integer :
    load { spacedSources with keywords := ("REDIS_PORT", .int 65536) :: spacedSources.keywords } =
        load spacedSources ∧
      load plainSources = load spacedSources ∧
      load spacedSources = .error [⟨.redisPort, .above 65535⟩, ⟨.redisTtl, .integerText⟩] ∧
      Text.Denotes "-0".toList 0 := by
  have denotes : Text.Denotes "\u00A0+065_536.0\n".toList 65536 :=
    ((integerText_eq_ok_iff _ _).mp rfl).1
  have given : GivesText spacedSources .redisPort "\u00A0+065_536.0\n" :=
    ⟨_, .environment rfl rfl, .text _⟩
  have alike := (text_configures_as_integer .tcpPort).1 65536 _ spacedSources denotes (by decide) given
  obtain ⟨n, zero, _, _, held, _⟩ := (text_configures_as_integer .database).2 spacedSources "-0"
    (.int 0) ⟨_, .keyword rfl, textForm_utf8 "-0"⟩ rfl
  rw [← Value.int.inj held] at zero
  exact ⟨alike.overridden, alike.replaced plainSources rfl sameOutside_plainSources, rfl, zero⟩

/-- A variable to which the file refers for another field. -/
def referredSources : Sources where
  keywords := []
  environment := [("REDIS_PORT", "7")]
  file := some "REDIS_DB=$\x7bREDIS_PORT\x7d"

theorem referred_text_differs_from_integer :
    Text.Denotes "7".toList 7 ∧ GivesText referredSources .redisPort "7" ∧
      (∃ x, load referredSources = .ok x ∧ x.redisPort = 7 ∧ x.redisDb = 7) ∧
      load { referredSources with keywords := [("REDIS_PORT", .int 7)], environment := [] } =
        .error [⟨.redisDb, .integerText⟩] :=
  ⟨((integerText_eq_ok_iff _ _).mp rfl).1, ⟨_, .environment rfl rfl, .text _⟩,
    ⟨_, rfl, rfl, rfl⟩, rfl⟩

end GatedCache.Settings
