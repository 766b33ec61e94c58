import GatedCache.EnvFile

/-!
How a file of bindings is written: lines, each blank, a comment or a binding, with line ends of three
kinds between them. A binding may be marked for export; its name may stand in quotes, and so may its
value, which then may span lines. The relations here are about texts alone; that a file which is
written so reads as its bindings is shown elsewhere.
-/
namespace GatedCache.EnvFile

open Text (singleQuote doubleQuote backslash isBlank isInlineBlank startsWith)

def Blanks (cs : List Char) : Prop := ∀ c ∈ cs, isBlank c = true

/-- Blanks within a line. -/
def Gap (cs : List Char) : Prop := ∀ c ∈ cs, isInlineBlank c = true

def inName (c : Char) : Bool := !(c == '=' || c == '#' || isBlank c)

/-- A text that stands for a name. -/
inductive NameText : List Char → List Char → Prop where
  | bare {cs : List Char} (filled : cs ≠ []) (plain : ∀ c ∈ cs, inName c = true)
      (unquoted : startsWith singleQuote cs = false) : NameText cs cs
  | quoted {cs : List Char} (filled : cs ≠ []) (plain : singleQuote ∉ cs) :
      NameText (singleQuote :: (cs ++ [singleQuote])) cs

/-- What may stand between two quotes: each quote in it follows a backslash, and no backslash is
followed by the quote at its end. -/
inductive Quoted (quote : Char) : List Char → Prop where
  | nil : Quoted quote []
  | escaped {cs : List Char} (rest : Quoted quote cs) : Quoted quote (backslash :: quote :: cs)
  | plain {c : Char} {cs : List Char} (other : c ≠ quote) (literal : c ≠ backslash)
      (rest : Quoted quote cs) : Quoted quote (c :: cs)
  | slash {d : Char} {cs : List Char} (other : d ≠ quote) (rest : Quoted quote (d :: cs)) :
      Quoted quote (backslash :: d :: cs)

/-- What may follow a quoted value, or a name without a value. -/
inductive TailText : List Char → Prop where
  | gap {gap : List Char} (blank : Gap gap) : TailText gap
  | comment {gap cs : List Char} (blank : Gap gap) (line : '\n' ∉ cs) : TailText (gap ++ '#' :: cs)

/-- The text after an equals sign and blanks, and the value that it gives. -/
inductive ValueText : List Char → List Char → Prop where
  | bare {cs : List Char} (line : '\n' ∉ cs)
      (start : ∀ c, cs.head? = some c →
        isInlineBlank c = false ∧ c ≠ singleQuote ∧ c ≠ doubleQuote) :
      ValueText cs (Text.dropEndWhile isBlank (cutComment cs))
  | single {cs tail : List Char} (body : Quoted singleQuote cs) (ending : TailText tail) :
      ValueText (singleQuote :: (cs ++ singleQuote :: tail)) (unescape singleEscape cs)
  | double {cs tail : List Char} (body : Quoted doubleQuote cs) (ending : TailText tail) :
      ValueText (doubleQuote :: (cs ++ doubleQuote :: tail)) (unescape doubleEscape cs)

/-- The text after a name, and the value if it gives one. -/
inductive RestText : List Char → Option (List Char) → Prop where
  | nothing {tail : List Char} (ending : TailText tail) : RestText tail none
  | value {before after cs value : List Char} (before_blank : Gap before) (after_blank : Gap after)
      (written : ValueText cs value) : RestText (before ++ '=' :: (after ++ cs)) (some value)

def exportWord : List Char := "export".toList

/-- A binding. The word for export is a name too, if it is not followed by blanks. -/
inductive BindingText : List Char → Binding → Prop where
  | plain {word rest name : List Char} {value : Option (List Char)} (named : NameText word name)
      (assigned : RestText rest value)
      (clear : word = exportWord → ∀ c, rest.head? = some c → isInlineBlank c = false) :
      BindingText (word ++ rest) ⟨String.ofList name, value.map String.ofList⟩
  | exported {gap word rest name : List Char} {value : Option (List Char)} (filled : gap ≠ [])
      (blank : Gap gap) (named : NameText word name) (assigned : RestText rest value) :
      BindingText (exportWord ++ (gap ++ (word ++ rest)))
        ⟨String.ofList name, value.map String.ofList⟩

inductive LineText : List Char → Option Binding → Prop where
  | blank {cs : List Char} (blanks : Blanks cs) : LineText cs none
  | comment {indent cs : List Char} (blanks : Blanks indent) (line : '\n' ∉ cs) :
      LineText (indent ++ '#' :: cs) none
  | binding {indent cs : List Char} {b : Binding} (blanks : Blanks indent)
      (written : BindingText cs b) : LineText (indent ++ cs) (some b)

/-- A line without its end, and what it binds. -/
structure Line where
  text : List Char
  binding : Option Binding
  written : LineText text binding

/-- Lines with a line feed between any two. -/
def layout : List Line → List Char
  | [] => []
  | [line] => line.text
  | line :: lines => line.text ++ '\n' :: layout lines

/-- The first text is the second with each line feed written as one of the three line ends. -/
inductive LineEnds : List Char → List Char → Prop where
  | nil : LineEnds [] []
  | char {c : Char} {cs ds : List Char} (inner : c ≠ '\r' ∧ c ≠ '\n') (rest : LineEnds cs ds) :
      LineEnds (c :: cs) (c :: ds)
  | feed {cs ds : List Char} (rest : LineEnds cs ds) : LineEnds ('\n' :: cs) ('\n' :: ds)
  | both {cs ds : List Char} (rest : LineEnds cs ds) : LineEnds ('\r' :: '\n' :: cs) ('\n' :: ds)
  | carriage {cs ds : List Char} (alone : startsWith '\n' cs = false) (rest : LineEnds cs ds) :
      LineEnds ('\r' :: cs) ('\n' :: ds)

theorem lineEnds_self {cs : List Char} (fed : '\r' ∉ cs) : LineEnds cs cs := by
  induction cs with
  | nil => exact .nil
  | cons c cs ih =>
    rw [List.mem_cons, not_or] at fed
    by_cases feed : c = '\n'
    · rw [feed]
      exact .feed (ih fed.2)
    · exact .char ⟨Ne.symm fed.1, feed⟩ (ih fed.2)

def byteOrderMark : Char := '\uFEFF'

/-- A file that consists of lines, after a byte order mark if there is one. The text is what decoding
as UTF-8 leaves, so a mark is still there; the grammar allows one and ignores it. -/
inductive Writes (lines : List Line) : List Char → Prop where
  | plain {cs : List Char} (ends : LineEnds cs (layout lines))
      (unmarked : startsWith byteOrderMark cs = false) : Writes lines cs
  | marked {cs : List Char} (ends : LineEnds cs (layout lines)) : Writes lines (byteOrderMark :: cs)

end GatedCache.EnvFile
