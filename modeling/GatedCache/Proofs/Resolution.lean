import Mathlib.Data.List.Basic
import GatedCache.Proofs.FileReferences
import GatedCache.Proofs.Loading

/-!
Settings are resolved field by field. The raw value of a field comes from the first source that has
one, it is validated on its own, and what comes of it is either what the settings hold for the field
or the one problem that is listed for it. What befalls one field changes another only through a file
of bindings: by a reference of one name's binding to another name.
-/
namespace GatedCache.Settings

/-- The value that a field takes from its sources, in their order of precedence. -/
inductive Supplies (s : Sources) (f : Field) : Value → Prop where
  | keyword {v : Value} (given : s.keywords.lookup f.name = some v) : Supplies s f v
  | environment {text : String} (omitted : s.keywords.lookup f.name = none)
      (set : s.environment.lookup f.name = some text) : Supplies s f (.text text)
  | file {text : String} (omitted : s.keywords.lookup f.name = none)
      (unset : s.environment.lookup f.name = none) (bound : s.fileValue? f.name = some text) :
      Supplies s f (.text text)
  | standard (omitted : s.keywords.lookup f.name = none)
      (unset : s.environment.lookup f.name = none) (unbound : s.fileValue? f.name = none) :
      Supplies s f f.default

theorem raw_of_supplies {s : Sources} {f : Field} {v : Value} (supplied : Supplies s f v) :
    s.raw f = v := by
  cases supplied with
  | keyword given => simp [Sources.raw, given]
  | environment omitted set => simp [Sources.raw, Sources.outerValue?, omitted, set]
  | file omitted unset bound => simp [Sources.raw, Sources.outerValue?, omitted, unset, bound]
  | standard omitted unset unbound =>
    simp [Sources.raw, Sources.outerValue?, omitted, unset, unbound]

theorem supplies_raw (s : Sources) (f : Field) : Supplies s f (s.raw f) := by
  have supplied : ∃ v, Supplies s f v := by
    cases given : s.keywords.lookup f.name with
    | some v => exact ⟨v, .keyword given⟩
    | none =>
      cases set : s.environment.lookup f.name with
      | some text => exact ⟨.text text, .environment given set⟩
      | none =>
        cases bound : s.fileValue? f.name with
        | some text => exact ⟨.text text, .file given set bound⟩
        | none => exact ⟨f.default, .standard given set bound⟩
  obtain ⟨v, supplied⟩ := supplied
  rw [raw_of_supplies supplied]
  exact supplied

theorem supplies_iff (s : Sources) (f : Field) (v : Value) : Supplies s f v ↔ s.raw f = v := by
  constructor
  · exact raw_of_supplies
  · rintro rfl
    exact supplies_raw s f

/-- What a field makes of a raw value: the value that is shown of it, or why it is refused. -/
def validated : Field → Value → Except Fault Value
  | .environment, v => (readMode v).map fun m => .text m.name
  | .serviceName, v | .serviceVersion, v | .redisHost, v => (readText v).map .text
  | .redisEnabled, v | .logJson, v => (readFlag v).map .bool
  | .redisPort, v => (readBetween 1 65535 v).map .int
  | .redisPassword, v => (readPassword v).map fun p => (p.map Value.secret).getD .null
  | .redisDb, v => (readAtLeast 0 v).map .int
  | .redisTtl, v => (readAtLeast 1 v).map .int
  | .redisMaxAttempts, v => (readBetween 1 10 v).map .int
  | .redisConnectTimeout, v => (readPositive v).map .float
  | .redisSocketTimeout, v => (readPositive? v).map fun x => (x.map Value.float).getD .null
  | .logLevel, v => (readLevel v).map fun l => .text l.name

def problem? (s : Sources) (f : Field) : Option Problem :=
  match validated f (s.raw f) with
  | .ok _ => none
  | .error e => some ⟨f, e⟩

theorem problem?_eq_some_iff (s : Sources) (f g : Field) (e : Fault) :
    problem? s g = some ⟨f, e⟩ ↔ g = f ∧ validated f (s.raw f) = .error e := by
  unfold problem?
  constructor
  · intro found
    cases result : validated g (s.raw g) with
    | ok v => simp [result] at found
    | error d =>
      simp only [result, Option.some.injEq, Problem.mk.injEq] at found
      obtain ⟨rfl, rfl⟩ := found
      exact ⟨rfl, result⟩
  · rintro ⟨rfl, result⟩
    simp only [result]

theorem problem?_eq_none_iff (s : Sources) (f : Field) :
    problem? s f = none ↔ ∃ v, validated f (s.raw f) = .ok v := by
  unfold problem?
  cases validated f (s.raw f) <;> simp

theorem problems_check {α : Type} (s : Sources) (f : Field) (read : Value → Except Fault α)
    (form : α → Value) (same : validated f (s.raw f) = (read (s.raw f)).map form) :
    (check s f read).problems = (problem? s f).toList := by
  unfold check problem?
  rw [same]
  cases read (s.raw f) <;> rfl

theorem problems_load (s : Sources) : (load s).problems = Field.all.filterMap (problem? s) := by
  rw [List.filterMap_eq_flatMap_toList]
  simp only [load, Checked.problems_and, Checked.problems_map,
    problems_check s .environment readMode _ rfl, problems_check s .serviceName readText _ rfl,
    problems_check s .serviceVersion readText _ rfl, problems_check s .redisEnabled readFlag _ rfl,
    problems_check s .redisHost readText _ rfl,
    problems_check s .redisPort (readBetween 1 65535) _ rfl,
    problems_check s .redisPassword readPassword _ rfl,
    problems_check s .redisDb (readAtLeast 0) _ rfl, problems_check s .redisTtl (readAtLeast 1) _ rfl,
    problems_check s .redisMaxAttempts (readBetween 1 10) _ rfl,
    problems_check s .redisConnectTimeout readPositive _ rfl,
    problems_check s .redisSocketTimeout readPositive? _ rfl,
    problems_check s .logLevel readLevel _ rfl, problems_check s .logJson readFlag _ rfl,
    Field.all, List.flatMap_cons, List.flatMap_nil, List.append_nil, List.append_assoc]

theorem mem_problems_load_iff (s : Sources) (f : Field) (e : Fault) :
    ⟨f, e⟩ ∈ (load s).problems ↔ validated f (s.raw f) = .error e := by
  rw [problems_load, List.mem_filterMap]
  constructor
  · rintro ⟨g, _, found⟩
    exact ((problem?_eq_some_iff s f g e).mp found).2
  · intro result
    exact ⟨f, Field.mem_all f, (problem?_eq_some_iff s f f e).mpr ⟨rfl, result⟩⟩

theorem load_eq_error_iff (s : Sources) (ps : List Problem) :
    load s = .error ps ↔ ps ≠ [] ∧ ps = Field.all.filterMap (problem? s) := by
  rw [← problems_load]
  constructor
  · intro failed
    rw [failed]
    refine ⟨?_, rfl⟩
    rintro rfl
    exact load_ne_nil s failed
  · rintro ⟨some, same⟩
    cases outcome : load s with
    | ok x =>
      rw [outcome] at same
      exact absurd same some
    | error qs =>
      rw [same, outcome]
      rfl

theorem loads_iff (s : Sources) :
    (∃ x, load s = .ok x) ↔ ∀ f, ∃ v, validated f (s.raw f) = .ok v := by
  have clean : (load s).problems = [] ↔ ∀ f, ∃ v, validated f (s.raw f) = .ok v := by
    rw [problems_load, List.filterMap_eq_nil_iff]
    constructor
    · intro none f
      exact (problem?_eq_none_iff s f).mp (none f (Field.mem_all f))
    · intro valid f _
      exact (problem?_eq_none_iff s f).mpr (valid f)
  rw [← clean]
  cases outcome : load s with
  | ok x => simp [Checked.problems]
  | error ps =>
    have some : ps ≠ [] := fun none => load_ne_nil s (none ▸ outcome)
    simp [Checked.problems, some]

theorem validated_of_load {s : Sources} {x : Settings} (loaded : load s = .ok x) (f : Field) :
    validated f (s.raw f) = .ok (x.shown f) := by
  rw [load_eq_ok_iff] at loaded
  obtain ⟨mode, name, version, enabled, host, place, password, db, ttl, attempts, connect, socket,
    level, json⟩ := loaded
  cases f <;> simp only [validated, *] <;> rfl

/-- Two outcomes of loading that do not differ in what they say of a field. -/
structure SameAt (f : Field) (before after : Checked Settings) : Prop where
  refused : ∀ e, ⟨f, e⟩ ∈ before.problems ↔ ⟨f, e⟩ ∈ after.problems
  held : ∀ x y, before = .ok x → after = .ok y → x.shown f = y.shown f

theorem sameAt_of_raw {s t : Sources} {f : Field} (same : t.raw f = s.raw f) :
    SameAt f (load s) (load t) := by
  constructor
  · intro e
    rw [mem_problems_load_iff, mem_problems_load_iff, same]
  · intro x y before after
    have old := validated_of_load before f
    have new := validated_of_load after f
    rw [same, old] at new
    exact Except.ok.inj new

theorem load_congr {s t : Sources} (same : ∀ f, t.raw f = s.raw f) : load t = load s := by
  have checks : ∀ {α : Type} (f : Field) (read : Value → Except Fault α),
      check t f read = check s f read := by
    intro α f read
    rw [check, check, same f]
  simp only [load, checks]

namespace Sources

def bindings (s : Sources) : List EnvFile.Binding := (s.file.map EnvFile.bindings).getD []

theorem fileValue?_eq (s : Sources) (name : String) :
    s.fileValue? name = ((s.bindings.foldl (EnvFile.extend s.environment) []).lookup name).join := by
  rw [fileValue?, bindings]
  cases s.file with
  | none => rfl
  | some text => rfl

end Sources

/-- Sources whose variables and bindings differ only for some names, to which no binding of another
name refers. -/
structure SameOuter (moved : List String) (s t : Sources) : Prop where
  environment : ∀ n ∉ moved, t.environment.lookup n = s.environment.lookup n
  bindings : t.bindings.filter (·.name ∉ moved) = s.bindings.filter (·.name ∉ moved)
  unreferenced : EnvFile.Unreferenced moved s.bindings

theorem sameOuter_nil {s t : Sources} (environment : t.environment = s.environment)
    (file : t.file = s.file) : SameOuter [] s t := by
  refine ⟨?_, ?_, ?_⟩
  · intro n _
    rw [environment]
  · rw [Sources.bindings, Sources.bindings, file]
  · intro b _ _ n _
    exact List.not_mem_nil

theorem outerValue?_of_sameOuter {moved : List String} {s t : Sources} (same : SameOuter moved s t)
    {n : String} (kept : n ∉ moved) : t.outerValue? n = s.outerValue? n := by
  have bound := EnvFile.lookup_foldl_unmoved same.environment same.unreferenced same.bindings n kept
  rw [Sources.outerValue?, Sources.outerValue?, same.environment n kept, Sources.fileValue?_eq,
    Sources.fileValue?_eq, bound]

/-- Sources that differ in nothing but the entries of some names. A name may have another keyword
whatever the file refers to. -/
structure SameOutside (changed : String → Prop) (s t : Sources) : Prop where
  keywords : ∀ n, ¬ changed n → t.keywords.lookup n = s.keywords.lookup n
  outer : ∃ moved : List String, (∀ n ∈ moved, changed n) ∧ SameOuter moved s t

theorem raw_of_sameOutside {changed : String → Prop} {s t : Sources}
    (same : SameOutside changed s t) {f : Field} (kept : ¬ changed f.name) : t.raw f = s.raw f := by
  obtain ⟨moved, within, outer⟩ := same.outer
  have unmoved : f.name ∉ moved := fun mem => kept (within _ mem)
  rw [Sources.raw, Sources.raw, same.keywords _ kept, outerValue?_of_sameOuter outer unmoved]

/-- For a field, sources that differ at most where another source comes first and is the same. -/
inductive SameWinner (f : Field) (s t : Sources) : Prop where
  | keyword {v : Value} (before : s.keywords.lookup f.name = some v)
      (after : t.keywords.lookup f.name = some v)
  | environment {text : String} (omitted : s.keywords.lookup f.name = none)
      (still : t.keywords.lookup f.name = none)
      (before : s.environment.lookup f.name = some text)
      (after : t.environment.lookup f.name = some text)

theorem raw_of_sameWinner {f : Field} {s t : Sources} (same : SameWinner f s t) :
    t.raw f = s.raw f := by
  cases same with
  | keyword before after =>
    rw [raw_of_supplies (.keyword before), raw_of_supplies (.keyword after)]
  | environment omitted still before after =>
    rw [raw_of_supplies (.environment omitted before), raw_of_supplies (.environment still after)]

/-- What loading makes of each field, and of each field alone. -/
structure ResolvedByField (s : Sources) : Prop where
  raw : ∀ f v, Supplies s f v ↔ s.raw f = v
  accepted : (∃ x, load s = .ok x) ↔ ∀ f, ∃ v, validated f (s.raw f) = .ok v
  held : ∀ x, load s = .ok x → ∀ f, validated f (s.raw f) = .ok (x.shown f)
  /-- The problems are one for each field that is refused, in the order of the fields. -/
  refused : ∀ ps, load s = .error ps ↔ ps ≠ [] ∧ ps = Field.all.filterMap (problem? s)
  /-- A field with the same raw value comes out the same, whatever the others are. -/
  alone : ∀ t f, t.raw f = s.raw f → SameAt f (load s) (load t)
  /-- Changing the entries of some names reaches no field of another name. -/
  confined : ∀ changed t, SameOutside changed s t →
    ∀ f, ¬ changed f.name → SameAt f (load s) (load t)
  /-- Changing what is overridden, or what no field is named, changes nothing. -/
  overridden : ∀ changed t, SameOutside changed s t →
    (∀ f, changed f.name → SameWinner f s t) → load t = load s

theorem load_resolves_by_field (s : Sources) : ResolvedByField s := by
  constructor
  · exact supplies_iff s
  · exact loads_iff s
  · intro x loaded f
    exact validated_of_load loaded f
  · exact load_eq_error_iff s
  · intro t f same
    exact sameAt_of_raw same
  · intro changed t same f kept
    exact sameAt_of_raw (raw_of_sameOutside same kept)
  · intro changed t same winners
    apply load_congr
    intro f
    by_cases touched : changed f.name
    · exact raw_of_sameWinner (winners f touched)
    · exact raw_of_sameOutside same touched

/-- A variable that a keyword overrides, beside a file. -/
def overriddenPort (text file : String) : Sources where
  keywords := [("REDIS_PORT", .int 1)]
  environment := [("REDIS_PORT", text)]
  file := some file

theorem overridden_variable_and_binding_change_nothing :
    load (overriddenPort "b" "REDIS_PORT=$\x7bREDIS_PORT\x7d\nREDIS_HOST=$\x7bHOME:-here\x7d") =
      load (overriddenPort "a" "REDIS_HOST=$\x7bHOME:-here\x7d") := by
  apply (load_resolves_by_field _).overridden (· = "REDIS_PORT")
  · refine ⟨fun _ _ => rfl, ["REDIS_PORT"], by simp, ?_, ?_, ?_⟩
    · intro n other
      simp only [List.mem_singleton] at other
      simp only [overriddenPort, List.lookup_cons, beq_false_of_ne other]
    · decide +kernel
    · apply EnvFile.unreferenced_of_referencedNames
      decide
  · intro f named
    have port : f = .redisPort := Field.name_injective named
    rw [port]
    exact .keyword rfl rfl

/-- A reference takes the variable that is set, although a keyword overrides it. -/
theorem overridden_variable_reaches_reference :
    SameWinner .redisPort (overriddenPort "a" "REDIS_HOST=$\x7bREDIS_PORT\x7d")
        (overriddenPort "b" "REDIS_HOST=$\x7bREDIS_PORT\x7d") ∧
      ¬ SameAt .redisHost (load (overriddenPort "a" "REDIS_HOST=$\x7bREDIS_PORT\x7d"))
        (load (overriddenPort "b" "REDIS_HOST=$\x7bREDIS_PORT\x7d")) := by
  refine ⟨.keyword rfl rfl, ?_⟩
  obtain ⟨x, before, first⟩ : ∃ x, load (overriddenPort "a" "REDIS_HOST=$\x7bREDIS_PORT\x7d") =
      .ok x ∧ x.shown .redisHost = .text "a" := ⟨_, rfl, rfl⟩
  obtain ⟨y, after, second⟩ : ∃ y, load (overriddenPort "b" "REDIS_HOST=$\x7bREDIS_PORT\x7d") =
      .ok y ∧ y.shown .redisHost = .text "b" := ⟨_, rfl, rfl⟩
  intro same
  have alike := same.held x y before after
  rw [first, second, Value.text.injEq] at alike
  exact absurd alike (by decide)

/-- A keyword that is null wins over a variable that is valid, and an invalid line of a file counts. -/
example : load ⟨[("REDIS_PORT", .null)], [("REDIS_PORT", "6380"), ("redis_host", "x")],
      some "LOG_LEVEL=loud\nREDIS_DB"⟩ =
    .error [⟨.redisPort, .notInteger⟩, ⟨.logLevel, .unknownLevel⟩] := rfl

end GatedCache.Settings
