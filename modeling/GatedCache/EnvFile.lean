import GatedCache.Text.Blank
import GatedCache.Text.Quoted

/-!
Files of environment bindings, one a line: an optional `export`, a name, and after an equals sign
a value, bare or in quotes, with an optional comment. A quoted value may span lines. A line that
does not read is skipped up to its end; reading then goes on with the next one. This module reads
the bindings as written; references inside values are resolved elsewhere.
-/
namespace GatedCache.EnvFile

open Text (singleQuote doubleQuote backslash isBlank isInlineBlank startsWith)

/-- A name and its value; a name alone binds no value. -/
structure Binding where
  name : String
  value : Option String
  deriving DecidableEq

def normalizeLines : List Char → List Char
  | [] => []
  | '\r' :: '\n' :: cs => '\n' :: normalizeLines cs
  | '\r' :: cs => '\n' :: normalizeLines cs
  | c :: cs => c :: normalizeLines cs

/-- The text without a byte order mark in front. Decoding as UTF-8 keeps the mark, and it is the
grammar of the bindings that ignores it, so that it is no part of the first name. -/
def dropMark : List Char → List Char
  | [] => []
  | c :: cs => if c.toNat = 0xFEFF then cs else c :: cs

def skipInline (cs : List Char) : List Char := cs.dropWhile isInlineBlank

def skipLine (cs : List Char) : List Char :=
  (cs.dropWhile (· != '\n')).drop 1

/-- The rest after the word `export`, if blanks follow it. -/
def skipExport (cs : List Char) : List Char :=
  let word := "export".toList
  let rest := cs.drop word.length
  if cs.take word.length == word && rest.head?.any isInlineBlank then skipInline rest else cs

/-- The end of quoted text: the first quote that no backslash escapes, or failing that the last
one that a backslash does escape. -/
def closing? (quote : Char) : List Char → Option (List Char × List Char)
  | [] => none
  | [c] => if c = quote then some ([], []) else none
  | c :: d :: cs =>
    if c = quote then some ([], d :: cs)
    else if c = backslash ∧ d = quote then
      match closing? quote cs with
      | some (body, rest) => some (c :: d :: body, rest)
      | none => some ([c], cs)
    else (closing? quote (d :: cs)).map fun r => (c :: r.1, r.2)

/-- Replaces a backslash and the character after it where the table has an entry for that. -/
def unescape (table : Char → Option Char) : List Char → List Char
  | [] => []
  | [c] => [c]
  | c :: d :: cs =>
    if c = backslash then
      match table d with
      | some e => e :: unescape table cs
      | none => c :: unescape table (d :: cs)
    else c :: unescape table (d :: cs)

def singleEscape (c : Char) : Option Char :=
  if c = backslash || c = singleQuote then some c else none

def doubleEscape (c : Char) : Option Char :=
  if c = backslash || c = singleQuote || c = doubleQuote then some c
  else
    [('a', '\x07'), ('b', '\x08'), ('f', '\x0c'), ('n', '\n'), ('r', '\r'), ('t', '\t'),
      ('v', '\x0b')].lookup c

/-- A bare value up to the first blanks that a comment follows. -/
def cutComment : List Char → List Char
  | [] => []
  | c :: cs =>
    if isBlank c && startsWith '#' (cs.dropWhile isBlank) then [] else c :: cutComment cs

/-- What a step of reading gives: a result and the rest, or the place from which the line is
skipped. -/
inductive Reading (α : Type) where
  | found (result : α) (rest : List Char)
  | unreadable (rest : List Char)

def readName (cs : List Char) : Reading (List Char) :=
  if startsWith singleQuote cs then
    let body := cs.drop 1
    let name := body.takeWhile (· != singleQuote)
    match body.dropWhile (· != singleQuote) with
    | _ :: rest => if name.isEmpty then .unreadable cs else .found name rest
    | [] => .unreadable cs
  else
    let inName := fun c => !(c == '=' || c == '#' || isBlank c)
    let name := cs.takeWhile inName
    if name.isEmpty then .unreadable cs else .found name (cs.dropWhile inName)

def readValue (cs : List Char) : Reading (List Char) :=
  if startsWith singleQuote cs then
    match closing? singleQuote (cs.drop 1) with
    | some (body, rest) => .found (unescape singleEscape body) rest
    | none => .unreadable cs
  else if startsWith doubleQuote cs then
    match closing? doubleQuote (cs.drop 1) with
    | some (body, rest) => .found (unescape doubleEscape body) rest
    | none => .unreadable cs
  else
    .found (Text.dropEndWhile isBlank (cutComment (cs.takeWhile (· != '\n')))) (cs.dropWhile (· != '\n'))

def readAssignment (cs : List Char) : Reading (Option (List Char)) :=
  match skipInline cs with
  | '=' :: rest =>
    match readValue (skipInline rest) with
    | .found value rest => .found (some value) rest
    | .unreadable rest => .unreadable rest
  | rest => .found none rest

def skipComment (cs : List Char) : List Char :=
  if startsWith '#' (skipInline cs) then cs.dropWhile (· != '\n') else cs

/-- The end of a line: blanks, then a line feed or the end of the text. -/
def readEnd (cs : List Char) : Reading Unit :=
  match skipInline cs with
  | [] => .found () []
  | '\n' :: rest => .found () rest
  | _ => .unreadable cs

def readLine (cs : List Char) : Option Binding × List Char :=
  match cs.dropWhile isBlank with
  | [] => (none, [])
  | '#' :: rest => (none, skipLine rest)
  | start =>
    match readName (skipExport start) with
    | .unreadable rest => (none, skipLine rest)
    | .found name rest =>
      match readAssignment rest with
      | .unreadable rest => (none, skipLine rest)
      | .found value rest =>
        let rest := skipComment rest
        match readEnd rest with
        | .unreadable rest => (none, skipLine rest)
        | .found _ rest => (some ⟨String.ofList name, value.map String.ofList⟩, rest)

/-- The bindings of at most so many lines. -/
def readLines : Nat → List Char → List Binding
  | 0, _ => []
  | _ + 1, [] => []
  | n + 1, c :: cs =>
    let (line, rest) := readLine (c :: cs)
    line.toList ++ readLines n rest

def bindings (text : String) : List Binding :=
  let cs := normalizeLines (dropMark text.toList)
  readLines cs.length cs

end GatedCache.EnvFile
