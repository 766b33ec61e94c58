import Mathlib.Data.List.Nodup
import GatedCache.Proofs.FileValues
import GatedCache.Proofs.Resolution

/-!
Settings may be moved from the environment into a file. A file that has a line with the text in
single quotes for each variable, in any order and among blank lines, comments and bindings of other
names, makes settings load as the variables do: the same settings, or the same problems.
-/
namespace GatedCache.Settings

open EnvFile (Line Plain Writes NameText LineText)
open Text (singleQuote)

/-- A text for a field, of the kind that both sources can give as it is. -/
structure Entry where
  field : Field
  text : String
  plain : Plain text

namespace Entry

def inEnvironment (e : Entry) : String × String := (e.field.name, e.text)

theorem nameText (f : Field) : NameText f.name.toList f.name.toList := by
  have plain : ∀ c ∈ f.name.toList, EnvFile.inName c = true := by
    rw [← List.all_eq_true]
    cases f <;> decide
  have filled : f.name.toList ≠ [] := by cases f <;> decide
  have unquoted : Text.startsWith singleQuote f.name.toList = false := by cases f <;> decide
  exact .bare filled plain unquoted

theorem lineText (e : Entry) :
    LineText (e.field.name.toList ++ '=' :: singleQuote :: (e.text.toList ++ [singleQuote]))
      (some ⟨e.field.name, some e.text⟩) := by
  have value := EnvFile.ValueText.single
    (EnvFile.quoted_of_literal e.plain.unquoted e.plain.literal) (.gap EnvFile.gap_nil)
  rw [EnvFile.unescape_of_literal _ e.plain.literal] at value
  have binding := EnvFile.BindingText.plain (nameText e.field)
    (.value EnvFile.gap_nil EnvFile.gap_nil value) (by
      intro _ c first
      obtain rfl : '=' = c := Option.some.inj first
      decide)
  have line := LineText.binding EnvFile.blanks_nil binding
  simpa using line

/-- The name, an equals sign and the text in single quotes. -/
def inFile (e : Entry) : Line where
  text := e.field.name.toList ++ '=' :: singleQuote :: (e.text.toList ++ [singleQuote])
  binding := some ⟨e.field.name, some e.text⟩
  written := lineText e

end Entry

/-- A line that binds no field. -/
def Foreign (line : Line) : Prop :=
  ∀ b, line.binding = some b → ∀ f : Field, b.name ≠ f.name

theorem lookup_absent {m : List Entry} {f : Field} (absent : ∀ e ∈ m, e.field ≠ f) :
    (m.map Entry.inEnvironment).lookup f.name = none := by
  induction m with
  | nil => rfl
  | cons e m ih =>
    obtain ⟨other, absent⟩ := List.forall_mem_cons.mp absent
    have differs : (f.name == e.field.name) = false :=
      beq_false_of_ne fun same => other (Field.name_injective same).symm
    rw [List.map_cons, Entry.inEnvironment, List.lookup_cons, differs]
    exact ih absent

theorem lookup_entry {m : List Entry} (distinct : (m.map Entry.field).Nodup) {e : Entry}
    (mem : e ∈ m) : (m.map Entry.inEnvironment).lookup e.field.name = some e.text := by
  induction m with
  | nil => cases mem
  | cons d m ih =>
    obtain ⟨fresh, distinct⟩ := List.nodup_cons.mp distinct
    rw [List.map_cons, Entry.inEnvironment, List.lookup_cons]
    rcases List.mem_cons.mp mem with rfl | mem
    · simp
    · have differs : (e.field.name == d.field.name) = false := by
        apply beq_false_of_ne
        intro same
        apply fresh
        rw [← Field.name_injective same]
        exact List.mem_map_of_mem mem
      rw [differs]
      exact ih distinct mem

section File

variable {m : List Entry} {others lines : List Line} {file : String}
  (foreign : ∀ l ∈ others, Foreign l) (order : lines.Perm (m.map Entry.inFile ++ others))
  (written : Writes lines file.toList)
include foreign order written

theorem binding_of_field {b : EnvFile.Binding} (mem : b ∈ EnvFile.bindings file) {f : Field}
    (named : b.name = f.name) : ∃ e ∈ m, e.field = f ∧ b.value = some e.text := by
  rw [EnvFile.bindings_of_writes written, List.mem_filterMap] at mem
  obtain ⟨line, mem, binds⟩ := mem
  rw [order.mem_iff, List.mem_append, List.mem_map] at mem
  rcases mem with ⟨e, mem, rfl⟩ | mem
  · obtain rfl := Option.some.inj binds
    exact ⟨e, mem, Field.name_injective named, rfl⟩
  · exact absurd named (foreign line mem b binds f)

omit foreign in
theorem bound_entry {e : Entry} (mem : e ∈ m) :
    ∃ b ∈ EnvFile.bindings file, b.name = e.field.name := by
  refine ⟨⟨e.field.name, some e.text⟩, ?_, rfl⟩
  rw [EnvFile.bindings_of_writes written, List.mem_filterMap]
  refine ⟨e.inFile, ?_, rfl⟩
  rw [order.mem_iff, List.mem_append]
  exact .inl (List.mem_map_of_mem mem)

theorem fileValue_eq_lookup (distinct : (m.map Entry.field).Nodup)
    (environment : List (String × String)) (f : Field) :
    EnvFile.value? environment file f.name = (m.map Entry.inEnvironment).lookup f.name := by
  by_cases given : ∃ e ∈ m, e.field = f
  · obtain ⟨e, mem, rfl⟩ := given
    rw [lookup_entry distinct mem]
    apply EnvFile.value?_eq_some environment e.plain (bound_entry order written mem)
    intro b bound named
    -- Entries are of distinct fields, so no other entry binds the name to another text.
    obtain ⟨d, other, same, value⟩ := binding_of_field foreign order written bound named
    rw [List.inj_on_of_nodup_map distinct other mem same] at value
    exact value
  · have absent : ∀ e ∈ m, e.field ≠ f := fun e mem same => given ⟨e, mem, same⟩
    rw [lookup_absent absent]
    apply EnvFile.value?_eq_none
    intro b bound named
    obtain ⟨e, mem, same, _⟩ := binding_of_field foreign order written bound named
    exact given ⟨e, mem, same⟩

end File

/-- The file gives each entry's field the entry's text, and loading cannot tell it from variables. -/
theorem environment_and_file_interchange (keywords : List (String × Value)) {m : List Entry}
    (distinct : (m.map Entry.field).Nodup) {others lines : List Line}
    (foreign : ∀ l ∈ others, Foreign l) (order : lines.Perm (m.map Entry.inFile ++ others))
    {file : String} (written : Writes lines file.toList) :
    (∀ e ∈ m, Sources.fileValue? ⟨keywords, [], some file⟩ e.field.name = some e.text) ∧
      load ⟨keywords, m.map Entry.inEnvironment, none⟩ = load ⟨keywords, [], some file⟩ := by
  have values := fileValue_eq_lookup foreign order written distinct []
  constructor
  · intro e mem
    exact (values e.field).trans (lookup_entry distinct mem)
  · apply load_congr
    intro f
    simp only [Sources.raw, Sources.outerValue?, Sources.fileValue?, Option.bind_some,
      Option.bind_none, Option.or_none, List.lookup_nil, Option.none_or, values]

def hostEntry : Entry :=
  ⟨.redisHost, " #a=\"b\" ", EnvFile.plain_of_dollarless (by decide) (by decide) (by decide)⟩

def portEntry : Entry :=
  ⟨.redisPort, "many", EnvFile.plain_of_dollarless (by decide) (by decide) (by decide)⟩

theorem exportedDebug :
    LineText "export debug=\"on\"#".toList (some ⟨"debug", some "on"⟩) := by
  have body : EnvFile.Quoted Text.doubleQuote "on".toList :=
    EnvFile.quoted_of_literal (by decide) (by decide)
  have remark : EnvFile.TailText "#".toList := .comment EnvFile.gap_nil List.not_mem_nil
  have value : EnvFile.ValueText "\"on\"#".toList "on".toList := .double body remark
  have named : NameText "debug".toList "debug".toList :=
    .bare (by decide) (List.all_eq_true.mp (by decide)) (by decide)
  have space : EnvFile.Gap [' '] := by
    intro c mem
    rw [List.mem_singleton.mp mem]
    decide
  have binding := EnvFile.BindingText.exported (List.cons_ne_nil _ _) space named
    (.value EnvFile.gap_nil EnvFile.gap_nil value)
  exact .binding EnvFile.blanks_nil binding

/-- A comment, a blank line and an exported name in double quotes. -/
def foreignLines : List Line :=
  [⟨"# cache".toList, none, .comment EnvFile.blanks_nil (by decide)⟩,
    ⟨[], none, .blank EnvFile.blanks_nil⟩,
    ⟨"export debug=\"on\"#".toList, some ⟨"debug", some "on"⟩, exportedDebug⟩]

/-- Two variables in a file, the other way round and with other lines between them. -/
theorem swapped_variables_interchange :
    load ⟨[], [("REDIS_PORT", "many"), ("REDIS_HOST", " #a=\"b\" ")], none⟩ =
        load ⟨[], [], some
          "REDIS_HOST=' #a=\"b\" '\n# cache\n\nexport debug=\"on\"#\nREDIS_PORT='many'"⟩ ∧
      load ⟨[], [("REDIS_PORT", "many"), ("REDIS_HOST", " #a=\"b\" ")], none⟩ =
        .error [⟨.redisPort, .integerText⟩] := by
  have distinct : ([portEntry, hostEntry].map Entry.field).Nodup := by decide
  have foreign : ∀ l ∈ foreignLines, Foreign l := by
    intro l mem b binds f
    simp only [foreignLines, List.mem_cons, List.not_mem_nil, or_false] at mem
    rcases mem with rfl | rfl | rfl
    · cases binds
    · cases binds
    · obtain rfl := Option.some.inj binds
      cases f <;> decide
  have order : (hostEntry.inFile :: foreignLines ++ [portEntry.inFile]).Perm
      ([portEntry, hostEntry].map Entry.inFile ++ foreignLines) :=
    List.perm_append_singleton portEntry.inFile (hostEntry.inFile :: foreignLines)
  have written : Writes (hostEntry.inFile :: foreignLines ++ [portEntry.inFile])
      "REDIS_HOST=' #a=\"b\" '\n# cache\n\nexport debug=\"on\"#\nREDIS_PORT='many'".toList :=
    .plain (EnvFile.lineEnds_self (by decide)) (by decide)
  exact ⟨(environment_and_file_interchange [] distinct foreign order written).2, rfl⟩

end GatedCache.Settings
