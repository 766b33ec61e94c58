import Mathlib.Data.List.Basic
import GatedCache.Proofs.FileLines

/-!
A file that is written as lines reads as the bindings of these lines, in order. Each step of reading
takes exactly the text of its part and leaves what stands after it, whatever that is; a line leaves
the lines after it.
-/
namespace GatedCache.EnvFile

open Text (singleQuote doubleQuote backslash isBlank isInlineBlank startsWith)

theorem closing?_quoted {quote : Char} (proper : quote ≠ backslash) {cs : List Char}
    (body : Quoted quote cs) (rest : List Char) :
    closing? quote (cs ++ quote :: rest) = some (cs, rest) := by
  induction body with
  | nil => cases rest <;> simp [closing?]
  | escaped _ ih => simp [closing?, proper.symm, ih]
  | @plain c cs other literal _ ih =>
    cases cs with
    | nil => simp [closing?, other, literal] at ih ⊢; exact ih
    | cons d cs => simp_all [closing?]
  | slash other _ ih => simp_all [closing?, proper.symm]

/-- The text is empty or begins with a character outside the property. -/
def Stops (p : Char → Bool) (cs : List Char) : Prop := ∀ c, cs.head? = some c → p c = false

theorem stops_cons {p : Char → Bool} {c : Char} (fails : p c = false) (cs : List Char) :
    Stops p (c :: cs) := by
  intro d first
  obtain rfl : c = d := Option.some.inj first
  exact fails

/-- The longest start of a text in which a property holds, when the property fails next. -/
theorem span_stops {p : Char → Bool} {cs rest : List Char} (inner : ∀ c ∈ cs, p c = true)
    (stop : Stops p rest) :
    (cs ++ rest).takeWhile p = cs ∧ (cs ++ rest).dropWhile p = rest := by
  rw [List.takeWhile_append_of_pos inner, List.dropWhile_append_of_pos inner]
  cases rest with
  | nil => simp
  | cons c rest => simp [stop c rfl]

theorem isBlank_of_isInlineBlank {c : Char} (blank : isInlineBlank c = true) : isBlank c = true := by
  unfold isInlineBlank at blank
  rw [Bool.and_eq_true] at blank
  exact blank.1

theorem inName_of_isInlineBlank {c : Char} (blank : isInlineBlank c = true) : inName c = false := by
  simp [inName, isBlank_of_isInlineBlank blank]

theorem blanks_nil : Blanks [] := by
  simp [Blanks]

theorem gap_nil : Gap [] := by
  simp [Gap]

theorem stops_gap {gap cs : List Char} (blank : Gap gap) (stop : Stops inName cs) :
    Stops inName (gap ++ cs) := by
  cases gap with
  | nil => exact stop
  | cons c gap => exact stops_cons (inName_of_isInlineBlank (blank c List.mem_cons_self)) _

theorem skipInline_gap {gap : List Char} (blank : Gap gap) (cs : List Char) :
    skipInline (gap ++ cs) = skipInline cs := by
  unfold skipInline
  exact List.dropWhile_append_of_pos blank

theorem skipInline_of_stops {cs : List Char} (stop : Stops isInlineBlank cs) :
    skipInline cs = cs := by
  cases cs with
  | nil => rfl
  | cons c cs =>
    have other : isInlineBlank c = false := stop c rfl
    simp [skipInline, other]

/-- What stands after a line, and what remains of it past the end of the line. -/
inductive LineEnd : List Char → List Char → Prop where
  | file : LineEnd [] []
  | feed (after : List Char) : LineEnd ('\n' :: after) after

section AtLineEnd

variable {rest after : List Char} (ended : LineEnd rest after)
include ended

theorem stops_lineEnd {p : Char → Bool} (fails : p '\n' = false) : Stops p rest := by
  cases ended with
  | file =>
    intro c first
    cases first
  | feed => exact stops_cons fails after

theorem length_of_lineEnd : after.length ≤ rest.length := by
  cases ended <;> simp

theorem skipInline_lineEnd : skipInline rest = rest :=
  skipInline_of_stops (stops_lineEnd ended (by decide))

theorem readEnd_gap {gap : List Char} (blank : Gap gap) :
    readEnd (gap ++ rest) = .found () after := by
  unfold readEnd
  rw [skipInline_gap blank, skipInline_lineEnd ended]
  cases ended <;> rfl

/-- A text without line feeds ends where the line does. -/
theorem span_line {cs : List Char} (line : '\n' ∉ cs) :
    (cs ++ rest).takeWhile (· != '\n') = cs ∧ (cs ++ rest).dropWhile (· != '\n') = rest := by
  apply span_stops
  · intro c mem
    rw [bne_iff_ne]
    rintro rfl
    exact line mem
  · exact stops_lineEnd ended rfl

theorem skipLine_line {cs : List Char} (line : '\n' ∉ cs) : skipLine (cs ++ rest) = after := by
  unfold skipLine
  rw [(span_line ended line).2]
  cases ended <;> rfl

theorem readEnd_tail {tail : List Char} (ending : TailText tail) :
    readEnd (skipComment (tail ++ rest)) = .found () after := by
  unfold skipComment
  cases ending with
  | gap blank =>
    have uncommented : startsWith '#' (skipInline (tail ++ rest)) = false := by
      rw [skipInline_gap blank, skipInline_lineEnd ended]
      cases ended <;> rfl
    rw [uncommented]
    exact readEnd_gap ended blank
  | @comment gap cs blank line =>
    have inner : '\n' ∉ gap ++ '#' :: cs := by
      rw [List.mem_append, List.mem_cons]
      rintro (mem | same | mem)
      · exact absurd (blank _ mem) (by decide)
      · exact absurd same (by decide)
      · exact line mem
    have commented : startsWith '#' (skipInline (gap ++ '#' :: cs ++ rest)) = true := by
      rw [List.append_assoc, skipInline_gap blank]
      rfl
    rw [commented, if_pos rfl, (span_line ended inner).2]
    exact readEnd_gap ended gap_nil

/-- Past a quoted value the rest of its line is left, past a bare one nothing of it. -/
theorem readValue_written {cs value : List Char} (written : ValueText cs value) :
    ∃ tail, TailText tail ∧ readValue (cs ++ rest) = .found value (tail ++ rest) := by
  unfold readValue
  cases written with
  | bare line start =>
    have unquoted : startsWith singleQuote (cs ++ rest) = false ∧
        startsWith doubleQuote (cs ++ rest) = false := by
      cases cs with
      | nil => cases ended <;> exact ⟨rfl, rfl⟩
      | cons c cs =>
        obtain ⟨_, notSingle, notDouble⟩ := start c rfl
        simp [startsWith, notSingle, notDouble]
    obtain ⟨taken, left⟩ := span_line ended line
    refine ⟨[], .gap gap_nil, ?_⟩
    simp [unquoted.1, unquoted.2, taken, left]
  | @single cs tail body ending =>
    refine ⟨tail, ending, ?_⟩
    have proper : singleQuote ≠ backslash := by decide
    have close := closing?_quoted proper body (tail ++ rest)
    simp [startsWith, close]
  | @double cs tail body ending =>
    refine ⟨tail, ending, ?_⟩
    have proper : doubleQuote ≠ backslash := by decide
    have close := closing?_quoted proper body (tail ++ rest)
    have other : doubleQuote ≠ singleQuote := by decide
    simp [startsWith, other, close]

theorem stops_value {cs value : List Char} (written : ValueText cs value) :
    Stops isInlineBlank (cs ++ rest) := by
  cases written with
  | bare _ start =>
    cases cs with
    | nil => exact stops_lineEnd ended (by decide)
    | cons c cs => exact stops_cons (start c rfl).1 _
  | single => exact stops_cons (by decide) _
  | double => exact stops_cons (by decide) _

theorem readAssignment_written {cs : List Char} {value : Option (List Char)}
    (assigned : RestText cs value) :
    ∃ tail, TailText tail ∧ readAssignment (cs ++ rest) = .found value (tail ++ rest) := by
  cases assigned with
  | nothing ending =>
    cases ending with
    | gap blank =>
      refine ⟨[], .gap gap_nil, ?_⟩
      have skipped : skipInline (cs ++ rest) = rest := by
        rw [skipInline_gap blank, skipInline_lineEnd ended]
      unfold readAssignment
      rw [skipped]
      cases ended <;> rfl
    | @comment gap cs blank line =>
      refine ⟨'#' :: cs, .comment gap_nil line, ?_⟩
      have skipped : skipInline (gap ++ '#' :: cs ++ rest) = '#' :: cs ++ rest := by
        rw [List.append_assoc, skipInline_gap blank]
        rfl
      unfold readAssignment
      rw [skipped]
      rfl
  | @value before between cs value before_blank between_blank written =>
    obtain ⟨tail, ending, read⟩ := readValue_written ended written
    refine ⟨tail, ending, ?_⟩
    have skipped : skipInline (before ++ '=' :: (between ++ cs) ++ rest)
        = '=' :: (between ++ (cs ++ rest)) := by
      rw [List.append_assoc, skipInline_gap before_blank, List.cons_append, List.append_assoc]
      rfl
    have started : skipInline (between ++ (cs ++ rest)) = cs ++ rest := by
      rw [skipInline_gap between_blank, skipInline_of_stops (stops_value ended written)]
    unfold readAssignment
    rw [skipped]
    simp only [started, read]

/-- What follows a name cannot be read as a part of it. -/
theorem stops_rest {cs : List Char} {value : Option (List Char)} (assigned : RestText cs value) :
    Stops inName (cs ++ rest) := by
  cases assigned with
  | nothing ending =>
    cases ending with
    | gap blank => exact stops_gap blank (stops_lineEnd ended (by decide))
    | comment blank =>
      rw [List.append_assoc]
      exact stops_gap blank (stops_cons (by decide) _)
  | value blank =>
    rw [List.append_assoc]
    exact stops_gap blank (stops_cons (by decide) _)

end AtLineEnd

theorem readName_named {word name rest : List Char} (named : NameText word name)
    (stop : Stops inName rest) : readName (word ++ rest) = .found name rest := by
  cases named with
  | bare filled plain unquoted =>
    have first : startsWith singleQuote (word ++ rest) = false := by
      cases word with
      | nil => exact absurd rfl filled
      | cons c word => exact unquoted
    obtain ⟨taken, left⟩ := span_stops plain stop
    unfold readName
    rw [first]
    change (if ((word ++ rest).takeWhile inName).isEmpty then _ else
      Reading.found ((word ++ rest).takeWhile inName) ((word ++ rest).dropWhile inName)) = _
    rw [taken, left]
    simp [filled]
  | quoted filled plain =>
    have inner : ∀ c ∈ name, (c != singleQuote) = true := by
      intro c mem
      rw [bne_iff_ne]
      rintro rfl
      exact plain mem
    have closed : Stops (· != singleQuote) (singleQuote :: rest) := stops_cons rfl rest
    obtain ⟨taken, left⟩ := span_stops inner closed
    unfold readName
    simp [startsWith, taken, left, filled]

theorem skipExport_eq_or (cs : List Char) :
    skipExport cs = cs ∨ ∃ c rest, cs = exportWord ++ c :: rest ∧ isInlineBlank c = true := by
  unfold skipExport
  by_cases marked : (cs.take exportWord.length == exportWord &&
      (cs.drop exportWord.length).head?.any isInlineBlank) = true
  · right
    rw [Bool.and_eq_true, beq_iff_eq, Option.any_eq_true] at marked
    obtain ⟨taken, c, first, blank⟩ := marked
    obtain ⟨rest, left⟩ := List.head?_eq_some_iff.mp first
    refine ⟨c, rest, ?_, blank⟩
    calc cs = cs.take exportWord.length ++ cs.drop exportWord.length :=
          (List.take_append_drop _ cs).symm
      _ = exportWord ++ c :: rest := by rw [taken, left]
  · left
    exact if_neg marked

/-- The word for export is a name where no blank follows it. -/
theorem skipExport_named {word name rest : List Char} (named : NameText word name)
    (stop : Stops inName rest) (clear : word = exportWord → Stops isInlineBlank rest) :
    skipExport (word ++ rest) = word ++ rest := by
  rcases skipExport_eq_or (word ++ rest) with same | ⟨c, after, marked, blank⟩
  · exact same
  · exfalso
    cases named with
    | bare _ plain _ =>
      -- A blank ends each name, so the name that begins with the word for export is this word.
      have inner : ∀ d ∈ exportWord, inName d = true := by
        rw [← List.all_eq_true]
        decide
      have asNamed := span_stops plain stop
      have asMarked := span_stops inner (stops_cons (inName_of_isInlineBlank blank) after)
      rw [marked] at asNamed
      have word_eq : exportWord = word := asMarked.1.symm.trans asNamed.1
      have rest_eq : c :: after = rest := asMarked.2.symm.trans asNamed.2
      have unblank : isInlineBlank c = false := clear word_eq.symm c (by rw [← rest_eq]; rfl)
      rw [blank] at unblank
      cases unblank
    | quoted =>
      have first : singleQuote = 'e' := List.head_eq_of_cons_eq marked
      exact absurd first (by decide)

theorem skipExport_exported {gap cs : List Char} (filled : gap ≠ []) (blank : Gap gap)
    (stop : Stops isInlineBlank cs) : skipExport (exportWord ++ (gap ++ cs)) = cs := by
  have marked : (gap ++ cs).head?.any isInlineBlank = true := by
    cases gap with
    | nil => exact absurd rfl filled
    | cons c gap => exact blank c List.mem_cons_self
  calc skipExport (exportWord ++ (gap ++ cs))
      = if (gap ++ cs).head?.any isInlineBlank then skipInline (gap ++ cs) else _ := rfl
    _ = skipInline (gap ++ cs) := if_pos marked
    _ = cs := by rw [skipInline_gap blank, skipInline_of_stops stop]

/-- A name begins with what no line skips. -/
theorem head_of_name {word name : List Char} (named : NameText word name) (rest : List Char) :
    ∃ c cs, word ++ rest = c :: cs ∧ isBlank c = false ∧ c ≠ '#' := by
  cases named with
  | bare filled plain _ =>
    obtain ⟨c, cs, rfl⟩ := List.exists_cons_of_ne_nil filled
    have inner : inName c = true := plain c List.mem_cons_self
    refine ⟨c, cs ++ rest, rfl, ?_⟩
    unfold inName at inner
    simp_all
  | quoted => exact ⟨singleQuote, _, rfl, by decide, by decide⟩

theorem head_of_binding {cs : List Char} {b : Binding} (written : BindingText cs b)
    (rest : List Char) : ∃ c ds, cs ++ rest = c :: ds ∧ isBlank c = false ∧ c ≠ '#' := by
  cases written with
  | plain named =>
    rw [List.append_assoc]
    exact head_of_name named _
  | exported => exact ⟨'e', _, rfl, by decide, by decide⟩

section Lines

variable {rest after : List Char} (ended : LineEnd rest after)
include ended

theorem readName_binding {cs : List Char} {b : Binding} (written : BindingText cs b) :
    ∃ name value tail, b = ⟨String.ofList name, value.map String.ofList⟩ ∧ RestText tail value ∧
      readName (skipExport (cs ++ rest)) = .found name (tail ++ rest) := by
  cases written with
  | @plain word tail name value named assigned clear =>
    have stop : Stops inName (tail ++ rest) := stops_rest ended assigned
    have unmarked : word = exportWord → Stops isInlineBlank (tail ++ rest) := by
      intro isWord
      cases tail with
      | nil => exact stops_lineEnd ended (by decide)
      | cons c tail => exact stops_cons (clear isWord c rfl) _
    refine ⟨name, value, tail, rfl, assigned, ?_⟩
    rw [List.append_assoc, skipExport_named named stop unmarked, readName_named named stop]
  | @exported gap word tail name value filled blank named assigned =>
    have start : Stops isInlineBlank (word ++ (tail ++ rest)) := by
      obtain ⟨c, cs, shape, unblank, _⟩ := head_of_name named (tail ++ rest)
      rw [shape]
      exact stops_cons (by simp [isInlineBlank, unblank]) cs
    refine ⟨name, value, tail, rfl, assigned, ?_⟩
    simp only [List.append_assoc]
    rw [skipExport_exported filled blank start, readName_named named (stops_rest ended assigned)]

theorem readLine_binding {cs : List Char} {b : Binding} (written : BindingText cs b) :
    readLine (cs ++ rest) = (some b, after) := by
  obtain ⟨c, ds, shape, unblank, uncommented⟩ := head_of_binding written rest
  obtain ⟨name, value, assignment, rfl, assigned, named⟩ := readName_binding ended written
  obtain ⟨tail, ending, read⟩ := readAssignment_written ended assigned
  have started : (c :: ds).dropWhile isBlank = c :: ds := by simp [unblank]
  rw [shape] at named ⊢
  unfold readLine
  simp [started, uncommented, named, read, readEnd_tail ended ending]

end Lines

theorem readLine_blank {c : Char} (blank : isBlank c = true) (cs : List Char) :
    readLine (c :: cs) = readLine cs := by
  simp only [readLine, List.dropWhile_cons_of_pos blank]

theorem readLines_nil (n : Nat) : readLines n [] = [] := by
  cases n <;> rfl

theorem readLines_of_readLine {cs after : List Char} {binding : Option Binding} {n : Nat}
    (filled : cs ≠ []) (read : readLine cs = (binding, after)) :
    readLines (n + 1) cs = binding.toList ++ readLines n after := by
  obtain ⟨c, cs, rfl⟩ := List.exists_cons_of_ne_nil filled
  conv_lhs => unfold readLines
  rw [read]

theorem readLines_blank {c : Char} (blank : isBlank c = true) (n : Nat) (cs : List Char) :
    readLines n (c :: cs) = readLines n cs := by
  cases n with
  | zero => rfl
  | succ n =>
    cases cs with
    | nil =>
      have read : readLine [c] = (none, []) := readLine_blank blank []
      rw [readLines_of_readLine (List.cons_ne_nil _ _) read, readLines_nil, readLines_nil]
      rfl
    | cons d cs =>
      rw [readLines_of_readLine (List.cons_ne_nil _ _) (readLine_blank blank _),
        readLines_of_readLine (List.cons_ne_nil _ _) rfl]

theorem readLines_blanks {cs : List Char} (blanks : Blanks cs) (n : Nat) (rest : List Char) :
    readLines n (cs ++ rest) = readLines n rest := by
  induction cs with
  | nil => rfl
  | cons c cs ih =>
    obtain ⟨blank, blanks⟩ := List.forall_mem_cons.mp blanks
    rw [List.cons_append, readLines_blank blank, ih blanks]

/-- A line gives its binding, and leaves steps enough for what follows it. -/
theorem readLines_line (line : Line) {rest after : List Char} (ended : LineEnd rest after) {n : Nat}
    (enough : (line.text ++ rest).length ≤ n) :
    ∃ m, after.length ≤ m ∧
      readLines n (line.text ++ rest) = line.binding.toList ++ readLines m after := by
  have shorter := length_of_lineEnd ended
  obtain ⟨text, binding, written⟩ := line
  rw [List.length_append] at enough
  cases written with
  | blank blanks =>
    -- Blanks cost no step, and neither does the line feed after them.
    refine ⟨n, by simp only at enough; omega, ?_⟩
    rw [readLines_blanks blanks]
    cases ended with
    | file => rfl
    | feed => exact readLines_blank (by decide) n after
  | @comment indent cs blanks inner =>
    simp only [List.length_append, List.length_cons] at enough
    obtain ⟨m, rfl⟩ : ∃ m, n = m + 1 := Nat.exists_eq_add_one.mpr (by omega)
    have read : readLine ('#' :: (cs ++ rest)) = (none, skipLine (cs ++ rest)) := rfl
    rw [skipLine_line ended inner] at read
    refine ⟨m, by omega, ?_⟩
    rw [List.append_assoc, readLines_blanks blanks]
    exact readLines_of_readLine (List.cons_ne_nil _ _) read
  | @binding indent cs b blanks written =>
    obtain ⟨c, ds, shape, _⟩ := head_of_binding written []
    rw [List.append_nil] at shape
    simp only [shape, List.length_append, List.length_cons] at enough
    obtain ⟨m, rfl⟩ : ∃ m, n = m + 1 := Nat.exists_eq_add_one.mpr (by omega)
    refine ⟨m, by omega, ?_⟩
    rw [List.append_assoc, readLines_blanks blanks]
    exact readLines_of_readLine (by simp [shape]) (readLine_binding ended written)

theorem readLines_layout (lines : List Line) {n : Nat} (enough : (layout lines).length ≤ n) :
    readLines n (layout lines) = lines.filterMap Line.binding := by
  rw [List.filterMap_eq_flatMap_toList]
  induction lines generalizing n with
  | nil => exact readLines_nil n
  | cons line lines ih =>
    rw [List.flatMap_cons]
    cases lines with
    | nil =>
      have whole : layout [line] = line.text ++ [] := (List.append_nil _).symm
      rw [whole] at enough ⊢
      obtain ⟨m, _, read⟩ := readLines_line line .file enough
      rw [read, readLines_nil]
      rfl
    | cons next lines =>
      obtain ⟨m, left, read⟩ := readLines_line line (.feed (layout (next :: lines))) enough
      calc readLines n (line.text ++ '\n' :: layout (next :: lines))
          = line.binding.toList ++ readLines m (layout (next :: lines)) := read
        _ = line.binding.toList ++ (next :: lines).flatMap fun l => l.binding.toList := by
          rw [ih left]

theorem normalizeLines_of_lineEnds {cs ds : List Char} (ends : LineEnds cs ds) :
    normalizeLines cs = ds := by
  induction ends with
  | nil => rfl
  | char inner _ ih => simp [normalizeLines, inner.1, ih]
  | feed _ ih => simp [normalizeLines, ih]
  | both _ ih => simp [normalizeLines, ih]
  | @carriage cs ds alone _ ih =>
    cases cs with
    | nil =>
      rw [← ih]
      rfl
    | cons c cs =>
      have other : c ≠ '\n' := by simpa [startsWith] using alone
      simp [normalizeLines, other, ih]

theorem normalizeLines_of_writes {lines : List Line} {cs : List Char} (written : Writes lines cs) :
    normalizeLines (dropMark cs) = layout lines := by
  cases written with
  | plain ends unmarked =>
    have kept : dropMark cs = cs := by
      cases cs with
      | nil => rfl
      | cons c cs =>
        have other : c ≠ byteOrderMark := by simpa [startsWith] using unmarked
        have code : c.toNat ≠ 0xFEFF := by
          intro same
          apply other
          rw [← Char.ofNat_toNat c, same]
          rfl
        exact if_neg code
    rw [kept, normalizeLines_of_lineEnds ends]
  | marked ends => exact normalizeLines_of_lineEnds ends

theorem bindings_of_writes {lines : List Line} {file : String}
    (written : Writes lines file.toList) : bindings file = lines.filterMap Line.binding := by
  unfold bindings
  rw [normalizeLines_of_writes written]
  exact readLines_layout lines (Nat.le_refl _)

end GatedCache.EnvFile
