import GatedCache.Text.Digit
import GatedCache.Text.Printable

/-!
Two quoted forms of text. A literal stands in single quotes unless only that forces an escape, and
keeps every printable character; a record string stands in double quotes and keeps ASCII alone.
-/
namespace GatedCache.Text

def singleQuote : Char := '\x27'
def doubleQuote : Char := '\x22'
def backslash : Char := '\x5c'

/-- A backslash, a letter and the code point in hexadecimal of the given width. -/
def numericEscape (letter : Char) (width n : Nat) : List Char :=
  backslash :: letter :: (numeralIn 16 width n).toList

def literalChar (quote c : Char) : List Char :=
  let n := c.toNat
  if c = quote || c = backslash then [backslash, c]
  else if c = '\n' then [backslash, 'n']
  else if c = '\r' then [backslash, 'r']
  else if c = '\t' then [backslash, 't']
  else if isPrintable c then [c]
  else if n < 0x100 then numericEscape 'x' 2 n
  else if n < 0x10000 then numericEscape 'u' 4 n
  else numericEscape 'U' 8 n

/-- The quotes of a literal: single ones, unless the text holds these and no double ones. -/
def quoteFor (cs : List Char) : Char :=
  if cs.contains singleQuote && !cs.contains doubleQuote then doubleQuote else singleQuote

def quoted (s : String) : String :=
  let q := quoteFor s.toList
  String.ofList (q :: s.toList.flatMap (literalChar q) ++ [q])

def asciiLiteral (s : String) : String :=
  String.ofList (s.toList.flatMap fun c =>
    let n := c.toNat
    if n < 0x80 then [c]
    else if n < 0x100 then numericEscape 'x' 2 n
    else if n < 0x10000 then numericEscape 'u' 4 n
    else numericEscape 'U' 8 n)

def literalByte (quote : Char) (b : UInt8) : List Char :=
  let c := Char.ofNat b.toNat
  if 0x80 ≤ b.toNat then numericEscape 'x' 2 b.toNat else literalChar quote c

def quotedBytes (bs : List UInt8) : String :=
  let q := quoteFor (bs.map fun b => Char.ofNat b.toNat)
  String.ofList ('b' :: q :: bs.flatMap (literalByte q) ++ [q])

/-- The two halves of a code point beyond 16 bits, in the form of record strings. -/
def surrogateEscape (n : Nat) : List Char :=
  let m := n - 0x10000
  numericEscape 'u' 4 (0xD800 + m / 0x400) ++ numericEscape 'u' 4 (0xDC00 + m % 0x400)

def recordChar (c : Char) : List Char :=
  let n := c.toNat
  if c = doubleQuote || c = backslash then [backslash, c]
  else if c = '\n' then [backslash, 'n']
  else if c = '\r' then [backslash, 'r']
  else if c = '\t' then [backslash, 't']
  else if n = 0x0C then [backslash, 'f']
  else if n = 0x08 then [backslash, 'b']
  else if 0x20 ≤ n && n < 0x7F then [c]
  else if n < 0x10000 then numericEscape 'u' 4 n
  else surrogateEscape n

def recordString (s : String) : String :=
  String.ofList (doubleQuote :: s.toList.flatMap recordChar ++ [doubleQuote])

end GatedCache.Text
