/-!
White space and blanks. White space is the Unicode property of that name; a blank is white space
or one of the four information separators U+001C to U+001F, which end words in running text
without being white space. Format characters such as the zero width space are neither.
-/
namespace GatedCache.Text

def isWhiteSpace (c : Char) : Bool :=
  let n := c.toNat
  (9 ≤ n && n ≤ 13) || n == 0x20 || n == 0x85 || n == 0xA0 || n == 0x1680 ||
    (0x2000 ≤ n && n ≤ 0x200A) || n == 0x2028 || n == 0x2029 || n == 0x202F ||
    n == 0x205F || n == 0x3000

/-- White space and the information separators. -/
def isBlank (c : Char) : Bool :=
  isWhiteSpace c || (0x1C ≤ c.toNat && c.toNat ≤ 0x1F)

/-- Blanks that do not end a line. -/
def isInlineBlank (c : Char) : Bool :=
  isBlank c && c != '\n'

def startsWith (c : Char) : List Char → Bool
  | [] => false
  | d :: _ => d == c

def isAsciiSpace (c : Char) : Bool :=
  c.toNat == 0x20 || (9 ≤ c.toNat && c.toNat ≤ 13)

def dropEndWhile (p : Char → Bool) (cs : List Char) : List Char :=
  (cs.reverse.dropWhile p).reverse

def trimWhile (p : Char → Bool) (cs : List Char) : List Char :=
  dropEndWhile p (cs.dropWhile p)

def isBlankText (s : String) : Bool :=
  s.toList.all isBlank

theorem isBlankText_iff {s : String} : isBlankText s = true ↔ ∀ c ∈ s.toList, isBlank c = true := by
  simp [isBlankText]

end GatedCache.Text
