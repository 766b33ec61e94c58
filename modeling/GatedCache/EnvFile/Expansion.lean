import GatedCache.EnvFile

/-!
References inside values: a name in braces after a dollar sign, with an optional default after a
colon and a dash. A reference stands for an earlier binding of the file, else for the variable of
the environment, else for its default or nothing.
-/
namespace GatedCache.EnvFile

structure Reference where
  name : String
  fallback : Option String
  deriving DecidableEq

/-- The reference whose opening brace was just passed, with the rest after its closing brace. -/
def reference? (cs : List Char) : Option (Reference × List Char) :=
  let inName := fun c => c != '\x7d' && c != ':'
  let name := String.ofList (cs.takeWhile inName)
  match cs.dropWhile inName with
  | '\x7d' :: rest => some (⟨name, none⟩, rest)
  | ':' :: '-' :: rest =>
    let inDefault := fun c => c != '\x7d'
    match rest.dropWhile inDefault with
    | _ :: after => some (⟨name, some (String.ofList (rest.takeWhile inDefault))⟩, after)
    | [] => none
  | _ => none

/-- Replaces the references of a text, for at most so many steps. -/
def expandWithin (resolve : Reference → List Char) : Nat → List Char → List Char
  | 0, cs => cs
  | _ + 1, [] => []
  | n + 1, '$' :: '\x7b' :: cs =>
    match reference? cs with
    | some (r, rest) => resolve r ++ expandWithin resolve n rest
    | none => '$' :: expandWithin resolve n ('\x7b' :: cs)
  | n + 1, c :: cs => c :: expandWithin resolve n cs

def expand (resolve : Reference → List Char) (s : String) : String :=
  String.ofList (expandWithin resolve s.length s.toList)

def namesWithin : Nat → List Char → List String
  | 0, _ => []
  | _ + 1, [] => []
  | n + 1, '$' :: '\x7b' :: cs =>
    match reference? cs with
    | some (r, rest) => r.name :: namesWithin n rest
    | none => namesWithin n ('\x7b' :: cs)
  | n + 1, _ :: cs => namesWithin n cs

/-- The names that the value of a binding refers to. -/
def Binding.references (b : Binding) : List String :=
  match b.value with
  | some value => namesWithin value.length value.toList
  | none => []

def referencedNames (text : String) : List String :=
  (bindings text).flatMap Binding.references

/-- What a reference stands for, given the bindings so far, the last one first. A name bound
without a value stands for nothing, whatever its default. -/
def resolve (environment : List (String × String)) (known : List (String × Option String))
    (r : Reference) : List Char :=
  match known.lookup r.name with
  | some value => (value.getD "").toList
  | none =>
    match environment.lookup r.name with
    | some value => value.toList
    | none => (r.fallback.getD "").toList

def extend (environment : List (String × String)) (known : List (String × Option String))
    (b : Binding) : List (String × Option String) :=
  (b.name, b.value.map (expand (resolve environment known))) :: known

def values (environment : List (String × String)) (text : String) :
    List (String × Option String) :=
  (bindings text).foldl (extend environment) []

/-- The value that a file gives a name: that of its last binding, if this has a value. -/
def value? (environment : List (String × String)) (text name : String) : Option String :=
  ((values environment text).lookup name).join

end GatedCache.EnvFile
