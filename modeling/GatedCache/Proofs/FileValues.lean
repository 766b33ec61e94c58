import GatedCache.EnvFile.Expansion
import GatedCache.Proofs.FileReading

/-!
What a file gives a name, told from its bindings alone. A name that no binding has gets nothing; a
name whose bindings all have one text that holds no reference gets this text, wherever they stand
and whatever other names are bound to.
-/
namespace GatedCache.EnvFile

open Text (singleQuote backslash)

/-- Text that means itself between single quotes: no quote, no backslash, no reference. -/
structure Plain (text : String) : Prop where
  unquoted : singleQuote ∉ text.toList
  literal : backslash ∉ text.toList
  closed : ¬ ['$', '\x7b'] <:+: text.toList

theorem plain_of_dollarless {text : String} (unquoted : singleQuote ∉ text.toList)
    (literal : backslash ∉ text.toList) (free : '$' ∉ text.toList) : Plain text :=
  ⟨unquoted, literal, fun inner => free (inner.subset List.mem_cons_self)⟩

theorem quoted_of_literal {quote : Char} {cs : List Char} (unquoted : quote ∉ cs)
    (literal : backslash ∉ cs) : Quoted quote cs := by
  induction cs with
  | nil => exact .nil
  | cons c cs ih =>
    rw [List.mem_cons, not_or] at unquoted literal
    exact .plain (Ne.symm unquoted.1) (Ne.symm literal.1) (ih unquoted.2 literal.2)

theorem unescape_of_literal (table : Char → Option Char) {cs : List Char}
    (literal : backslash ∉ cs) : unescape table cs = cs := by
  induction cs with
  | nil => rfl
  | cons c cs ih =>
    rw [List.mem_cons, not_or] at literal
    cases cs with
    | nil => rfl
    | cons d cs =>
      rw [unescape, if_neg (Ne.symm literal.1), ih literal.2]

theorem expandWithin_of_closed (resolve : Reference → List Char) (n : Nat) {cs : List Char}
    (closed : ¬ ['$', '\x7b'] <:+: cs) : expandWithin resolve n cs = cs := by
  fun_induction expandWithin resolve n cs with
  | case1 => rfl
  | case2 => rfl
  | case3 n cs => exact absurd ⟨[], cs, rfl⟩ closed
  | case4 n cs => exact absurd ⟨[], cs, rfl⟩ closed
  | case5 n c cs _ ih =>
    rw [ih fun inner => closed (List.infix_cons inner)]

theorem expand_of_plain (resolve : Reference → List Char) {text : String} (plain : Plain text) :
    expand resolve text = text := by
  unfold expand
  rw [expandWithin_of_closed resolve _ plain.closed, String.ofList_toList]

section Bound

variable {environment : List (String × String)} {bs : List Binding} {name : String}

theorem lookup_extend_ne {b : Binding} (other : b.name ≠ name)
    (known : List (String × Option String)) :
    (extend environment known b).lookup name = known.lookup name := by
  have differs : (name == b.name) = false := beq_false_of_ne (Ne.symm other)
  simp [extend, List.lookup_cons, differs]

theorem lookup_extend_plain {b : Binding} {text : String} (plain : Plain text) (same : b.name = name)
    (value : b.value = some text) (known : List (String × Option String)) :
    (extend environment known b).lookup name = some (some text) := by
  simp [extend, same, value, expand_of_plain _ plain]

theorem lookup_foldl_absent (absent : ∀ b ∈ bs, b.name ≠ name)
    (known : List (String × Option String)) :
    (bs.foldl (extend environment) known).lookup name = known.lookup name := by
  induction bs generalizing known with
  | nil => rfl
  | cons b bs ih =>
    obtain ⟨other, absent⟩ := List.forall_mem_cons.mp absent
    rw [List.foldl_cons, ih absent, lookup_extend_ne other]

theorem lookup_foldl_plain {text : String} (plain : Plain text)
    (same : ∀ b ∈ bs, b.name = name → b.value = some text) (known : List (String × Option String))
    (bound : known.lookup name = some (some text) ∨ ∃ b ∈ bs, b.name = name) :
    (bs.foldl (extend environment) known).lookup name = some (some text) := by
  induction bs generalizing known with
  | nil => simpa using bound
  | cons b bs ih =>
    obtain ⟨value, same⟩ := List.forall_mem_cons.mp same
    rw [List.foldl_cons]
    -- What is carried: the name has its text already, or a binding of it is still to come.
    apply ih same
    by_cases here : b.name = name
    · exact .inl (lookup_extend_plain plain here (value here) known)
    · rw [lookup_extend_ne here]
      rcases bound with known | ⟨d, mem, named⟩
      · exact .inl known
      · rcases List.mem_cons.mp mem with rfl | mem
        · exact absurd named here
        · exact .inr ⟨d, mem, named⟩

end Bound

theorem value?_eq_none (environment : List (String × String)) {file name : String}
    (absent : ∀ b ∈ bindings file, b.name ≠ name) : value? environment file name = none := by
  unfold value? values
  rw [lookup_foldl_absent absent]
  rfl

theorem value?_eq_some (environment : List (String × String)) {file name text : String}
    (plain : Plain text) (bound : ∃ b ∈ bindings file, b.name = name)
    (same : ∀ b ∈ bindings file, b.name = name → b.value = some text) :
    value? environment file name = some text := by
  unfold value? values
  rw [lookup_foldl_plain plain same [] (.inr bound)]
  rfl

end GatedCache.EnvFile
