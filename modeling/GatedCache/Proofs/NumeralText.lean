import Mathlib.Data.List.TakeWhile
import GatedCache.Proofs.FileReading
import GatedCache.Settings.Reading

/-!
How an integer is written as text, said without a reader: white space on both sides, at most one
sign, digits with single underscores between them, and a fraction of zeros. Reading accepts exactly
these texts, as far as the number is not too long, and gives the number that they denote. Leading
zeros do not count for the length.
-/
namespace GatedCache

namespace Text

open EnvFile (Stops stops_cons span_stops)

/-- Digits between which single underscores may stand, and the digits alone. -/
inductive Grouped : List Char → List Char → Prop where
  | last {c : Char} (digit : c.isDigit = true) : Grouped [c] [c]
  | next {c : Char} {cs ds : List Char} (digit : c.isDigit = true) (rest : Grouped cs ds) :
      Grouped (c :: cs) (c :: ds)
  | apart {c : Char} {cs ds : List Char} (digit : c.isDigit = true) (rest : Grouped cs ds) :
      Grouped (c :: '_' :: cs) (c :: ds)

/-- At most one sign; the flag says whether it is a minus. -/
inductive SignText : List Char → Bool → Prop where
  | none : SignText [] false
  | plus : SignText ['+'] false
  | minus : SignText ['-'] true

/-- Nothing, or a point and one or more zeros. -/
inductive ZeroFraction : List Char → Prop where
  | none : ZeroFraction []
  | zeros (more : Nat) : ZeroFraction ('.' :: '0' :: List.replicate more '0')

def AllWhite (cs : List Char) : Prop := ∀ c ∈ cs, isWhiteSpace c = true

/-- A text with a sign and digits, and nothing else that counts. -/
inductive NumeralText : List Char → Bool → List Char → Prop where
  | written {before sign digits ds fraction after : List Char} {negative : Bool}
      (leading : AllWhite before) (signed : SignText sign negative) (grouped : Grouped digits ds)
      (whole : ZeroFraction fraction) (trailing : AllWhite after) :
      NumeralText (before ++ (sign ++ (digits ++ fraction)) ++ after) negative ds

/-- The integer that a text denotes. -/
def Denotes (cs : List Char) (n : Int) : Prop :=
  ∃ negative ds, NumeralText cs negative ds ∧
    n = if negative then -(Nat.ofDigitChars 10 ds 0 : Int) else Nat.ofDigitChars 10 ds 0

section Characters

theorem isDigit_iff {c : Char} : c.isDigit = true ↔ 48 ≤ c.toNat ∧ c.toNat ≤ 57 := by
  simp only [Char.isDigit, Bool.and_eq_true, decide_eq_true_eq, ge_iff_le, UInt32.le_iff_toNat_le]
  rfl

theorem isWhiteSpace_of_isDigit {c : Char} (digit : c.isDigit = true) : isWhiteSpace c = false := by
  obtain ⟨least, greatest⟩ := isDigit_iff.mp digit
  simp only [isWhiteSpace, Bool.or_eq_false_iff, Bool.and_eq_false_iff, decide_eq_false_iff_not,
    beq_eq_false_iff_ne]
  omega

theorem value_lt_ten {c : Char} (digit : c.isDigit = true) : c.toNat - '0'.toNat < 10 := by
  have bounds := isDigit_iff.mp digit
  change c.toNat - 48 < 10
  omega

theorem digitChar_value {c : Char} (digit : c.isDigit = true) :
    Nat.digitChar (c.toNat - '0'.toNat) = c := by
  have bounds := isDigit_iff.mp digit
  apply Char.toNat_inj.mp
  rw [Nat.toNat_digitChar_of_lt_ten (value_lt_ten digit)]
  change 48 + (c.toNat - 48) = c.toNat
  omega

theorem ne_of_isDigit {c d : Char} (digit : c.isDigit = true) (other : d.isDigit = false) :
    c ≠ d := by
  rintro rfl
  rw [digit] at other
  cases other

end Characters

namespace Grouped

variable {cs ds : List Char} (grouped : Grouped cs ds)
include grouped

theorem digits : ∀ d ∈ ds, d.isDigit = true := by
  induction grouped with
  | last digit =>
    intro d mem
    rw [List.mem_singleton.mp mem]
    exact digit
  | next digit _ ih | apart digit _ ih =>
    intro d mem
    rcases List.mem_cons.mp mem with rfl | mem
    · exact digit
    · exact ih d mem

theorem chars : ∀ c ∈ cs, c.isDigit = true ∨ c = '_' := by
  induction grouped with
  | last digit =>
    intro c mem
    rw [List.mem_singleton.mp mem]
    exact .inl digit
  | next digit _ ih =>
    intro c mem
    rcases List.mem_cons.mp mem with rfl | mem
    · exact .inl digit
    · exact ih c mem
  | apart digit _ ih =>
    intro c mem
    rcases List.mem_cons.mp mem with rfl | mem
    · exact .inl digit
    · rcases List.mem_cons.mp mem with rfl | mem
      · exact .inr rfl
      · exact ih c mem

theorem head : ∃ c rest, cs = c :: rest ∧ c.isDigit = true := by
  cases grouped with
  | last digit => exact ⟨_, [], rfl, digit⟩
  | next digit _ => exact ⟨_, _, rfl, digit⟩
  | apart digit _ => exact ⟨_, _, rfl, digit⟩

theorem ungrouped : ungroup? cs = some ds := by
  induction grouped with
  | last digit => rw [ungroup?, if_pos digit]
  | @next c cs ds digit rest ih =>
    obtain ⟨d, tail, rfl, first⟩ := rest.head
    have other : d ≠ '_' := ne_of_isDigit first (by decide)
    rw [ungroup?, if_pos digit, ih, Option.map_some]
    exact fun same => other same
  | apart digit _ ih => rw [ungroup?, if_pos digit, ih, Option.map_some]

end Grouped

theorem grouped_of_ungroup? {cs ds : List Char} (accepted : ungroup? cs = some ds) :
    Grouped cs ds := by
  fun_induction ungroup? cs generalizing ds with
  | case1 => cases accepted
  | case2 c digit =>
    cases accepted
    exact .last digit
  | case3 c other => cases accepted
  | case4 c cs digit ih =>
    obtain ⟨rest, read, rfl⟩ := Option.map_eq_some_iff.mp accepted
    exact .apart digit (ih read)
  | case5 c cs other => cases accepted
  | case6 c d cs bare digit ih =>
    obtain ⟨rest, read, rfl⟩ := Option.map_eq_some_iff.mp accepted
    exact .next digit (ih read)
  | case7 c d cs bare other => cases accepted

theorem ungroup?_eq_some_iff {cs ds : List Char} : ungroup? cs = some ds ↔ Grouped cs ds :=
  ⟨grouped_of_ungroup?, Grouped.ungrouped⟩

theorem isZeroFraction_iff {cs : List Char} : isZeroFraction cs = true ↔ ZeroFraction cs := by
  constructor
  · intro accepted
    cases cs with
    | nil => exact .none
    | cons c zeros =>
      simp only [isZeroFraction, Bool.and_eq_true, beq_iff_eq, Bool.not_eq_true',
        List.isEmpty_eq_false_iff, List.all_eq_true] at accepted
      obtain ⟨⟨rfl, filled⟩, all⟩ := accepted
      have zeros_eq := List.eq_replicate_of_mem all
      cases zeros with
      | nil => exact absurd rfl filled
      | cons z zeros =>
        rw [zeros_eq, List.length_cons, List.replicate_succ]
        exact .zeros zeros.length
  · intro fraction
    cases fraction with
    | none => rfl
    | zeros more => simp [isZeroFraction]

/-- A text that begins with a digit has no sign in front. -/
theorem splitSign_append {sign cs : List Char} {negative : Bool} (signed : SignText sign negative)
    {c : Char} {rest : List Char} (first : cs = c :: rest) (digit : c.isDigit = true) :
    splitSign (sign ++ cs) = (negative, cs) := by
  subst first
  cases signed with
  | none =>
    have minus : c ≠ '-' := ne_of_isDigit digit (by decide)
    have plus : c ≠ '+' := ne_of_isDigit digit (by decide)
    simp [splitSign, minus, plus]
  | plus => rfl
  | minus => rfl

theorem signText_of_splitSign (cs : List Char) :
    ∃ sign, SignText sign (splitSign cs).1 ∧ cs = sign ++ (splitSign cs).2 := by
  unfold splitSign
  split
  · exact ⟨['-'], .minus, rfl⟩
  · exact ⟨['+'], .plus, rfl⟩
  · exact ⟨[], .none, rfl⟩

section Trimming

variable {p : Char → Bool}

theorem stops_of_forall {cs : List Char} (outside : ∀ c ∈ cs, p c = false) : Stops p cs := by
  intro c first
  exact outside c (List.mem_of_mem_head? first)

theorem trimWhile_surrounded {before core after : List Char} (leading : ∀ c ∈ before, p c = true)
    (filled : core ≠ []) (inner : ∀ c ∈ core, p c = false) (trailing : ∀ c ∈ after, p c = true) :
    trimWhile p (before ++ core ++ after) = core := by
  have start : Stops p (core ++ after) := by
    obtain ⟨c, rest, rfl⟩ := List.exists_cons_of_ne_nil filled
    exact stops_cons (inner c List.mem_cons_self) _
  have back : ∀ c ∈ after.reverse, p c = true := fun c mem => trailing c (List.mem_reverse.mp mem)
  have final : Stops p core.reverse :=
    stops_of_forall fun c mem => inner c (List.mem_reverse.mp mem)
  rw [trimWhile, List.append_assoc, (span_stops leading start).2, dropEndWhile,
    List.reverse_append, (span_stops back final).2, List.reverse_reverse]

theorem surrounded_trimWhile (p : Char → Bool) (cs : List Char) :
    ∃ before after, (∀ c ∈ before, p c = true) ∧ (∀ c ∈ after, p c = true) ∧
      cs = before ++ trimWhile p cs ++ after := by
  refine ⟨cs.takeWhile p, ((cs.dropWhile p).reverse.takeWhile p).reverse, ?_, ?_, ?_⟩
  · exact fun c mem => List.mem_takeWhile_imp mem
  · exact fun c mem => List.mem_takeWhile_imp (List.mem_reverse.mp mem)
  · have tail : trimWhile p cs ++ ((cs.dropWhile p).reverse.takeWhile p).reverse =
        cs.dropWhile p := by
      rw [trimWhile, dropEndWhile, ← List.reverse_append, List.takeWhile_append_dropWhile,
        List.reverse_reverse]
    rw [List.append_assoc, tail, List.takeWhile_append_dropWhile]

end Trimming

/-- What counts of a numeral is free of white space. -/
theorem isWhiteSpace_of_core {sign digits ds fraction : List Char} {negative : Bool}
    (signed : SignText sign negative) (grouped : Grouped digits ds)
    (whole : ZeroFraction fraction) :
    ∀ c ∈ sign ++ (digits ++ fraction), isWhiteSpace c = false := by
  intro c mem
  rcases List.mem_append.mp mem with mem | mem
  · cases signed with
    | none => cases mem
    | plus | minus =>
      rw [List.mem_singleton.mp mem]
      decide
  · rcases List.mem_append.mp mem with mem | mem
    · rcases grouped.chars c mem with digit | rfl
      · exact isWhiteSpace_of_isDigit digit
      · decide
    · cases whole with
      | none => cases mem
      | zeros more =>
        simp only [List.mem_cons, List.mem_replicate] at mem
        rcases mem with rfl | rfl | ⟨_, rfl⟩ <;> decide

theorem span_fraction {digits ds fraction : List Char} (grouped : Grouped digits ds)
    (whole : ZeroFraction fraction) :
    (digits ++ fraction).takeWhile (· != '.') = digits ∧
      (digits ++ fraction).dropWhile (· != '.') = fraction := by
  apply span_stops
  · intro c mem
    rw [bne_iff_ne]
    rcases grouped.chars c mem with digit | rfl
    · exact ne_of_isDigit digit (by decide)
    · decide
  · cases whole with
    | none =>
      intro c first
      cases first
    | zeros more => exact stops_cons rfl _

theorem readNumeral?_of_text {cs ds : List Char} {negative : Bool}
    (written : NumeralText cs negative ds) : readNumeral? cs = some (negative, ds) := by
  cases written with
  | @written before sign digits ds fraction after negative leading signed grouped whole trailing =>
    obtain ⟨c, rest, first, digit⟩ := grouped.head
    have body : digits ++ fraction = c :: (rest ++ fraction) := by rw [first, List.cons_append]
    have filled : sign ++ (digits ++ fraction) ≠ [] := by simp [body]
    have trimmed := trimWhile_surrounded leading filled
      (isWhiteSpace_of_core signed grouped whole) trailing
    have split := span_fraction grouped whole
    simp only [readNumeral?, trimmed, splitSign_append signed body digit, split.1, split.2,
      isZeroFraction_iff.mpr whole, ungroup?_eq_some_iff.mpr grouped, if_true, Option.map_some]

theorem text_of_readNumeral? {cs ds : List Char} {negative : Bool}
    (accepted : readNumeral? cs = some (negative, ds)) : NumeralText cs negative ds := by
  obtain ⟨before, after, leading, trailing, whole⟩ := surrounded_trimWhile isWhiteSpace cs
  obtain ⟨sign, signed, core⟩ := signText_of_splitSign (trimWhile isWhiteSpace cs)
  simp only [readNumeral?] at accepted
  generalize splitSign (trimWhile isWhiteSpace cs) = parts at signed core accepted
  obtain ⟨minus, body⟩ := parts
  split at accepted
  · rename_i fraction
    obtain ⟨digits, read, same⟩ := Option.map_eq_some_iff.mp accepted
    cases same
    rw [whole, core, ← List.takeWhile_append_dropWhile (p := (· != '.')) (l := body)]
    exact .written leading signed (ungroup?_eq_some_iff.mp read)
      (isZeroFraction_iff.mp fraction) trailing
  · cases accepted

theorem readNumeral?_eq_some_iff {cs ds : List Char} {negative : Bool} :
    readNumeral? cs = some (negative, ds) ↔ NumeralText cs negative ds :=
  ⟨text_of_readNumeral?, readNumeral?_of_text⟩

theorem NumeralText.digits {cs ds : List Char} {negative : Bool}
    (written : NumeralText cs negative ds) : ∀ d ∈ ds, d.isDigit = true := by
  cases written with
  | written _ _ grouped _ _ => exact grouped.digits

theorem natAbs_signedNumeral (negative : Bool) (ds : List Char) :
    (signedNumeral negative ds).natAbs = numeral ds := by
  cases negative <;> simp [signedNumeral]

theorem ofDigitChars_dropZeros (ds : List Char) :
    Nat.ofDigitChars 10 (ds.dropWhile (· == '0')) 0 = Nat.ofDigitChars 10 ds 0 := by
  induction ds with
  | nil => rfl
  | cons c cs ih =>
    rw [List.dropWhile_cons]
    split
    · rename_i zero
      rw [ih, beq_iff_eq.mp zero, Nat.ofDigitChars_cons]
      rfl
    · rfl

theorem grouped_self {cs : List Char} (filled : cs ≠ []) (digits : ∀ c ∈ cs, c.isDigit = true) :
    Grouped cs cs := by
  induction cs with
  | nil => exact absurd rfl filled
  | cons c cs ih =>
    rw [List.forall_mem_cons] at digits
    cases cs with
    | nil => exact .last digits.1
    | cons d cs => exact .next digits.1 (ih (List.cons_ne_nil d cs) digits.2)

/-- The decimal form of an integer denotes it. -/
theorem denotes_toString (n : Int) : Denotes (toString n).toList n := by
  have plain : ∀ k : Nat, Grouped (Nat.toDigits 10 k) (Nat.toDigits 10 k) := fun k =>
    grouped_self Nat.toDigits_ne_nil fun _ mem => Nat.isDigit_of_mem_toDigits (by decide) le_rfl mem
  have white : AllWhite [] := List.forall_mem_nil _
  rw [Int.toString_eq_repr, Int.repr_eq_if]
  by_cases positive : 0 ≤ n
  · refine ⟨false, Nat.toDigits 10 n.toNat, ?_, ?_⟩
    · have written := NumeralText.written white .none (plain n.toNat) .none white
      simpa [positive] using written
    · rw [Nat.ofDigitChars_ten_toDigits, if_neg Bool.false_ne_true]
      omega
  · refine ⟨true, Nat.toDigits 10 (-n).toNat, ?_, ?_⟩
    · have written := NumeralText.written white .minus (plain (-n).toNat) .none white
      simpa [positive] using written
    · rw [Nat.ofDigitChars_ten_toDigits, if_pos rfl]
      omega

section Length

variable {ds : List Char} (digits : ∀ d ∈ ds, d.isDigit = true)
include digits

theorem numeral_eq_ofDigitChars : numeral ds = Nat.ofDigitChars 10 ds 0 := by
  rw [numeral, Nat.ofDigitChars_eq_foldl]
  apply List.foldl_ext
  intro n c mem
  rw [asciiDigit, if_pos (digits c mem)]
  rfl

theorem signedNumeral_eq (negative : Bool) :
    signedNumeral negative ds =
      if negative then -(Nat.ofDigitChars 10 ds 0 : Int) else Nat.ofDigitChars 10 ds 0 := by
  rw [signedNumeral, numeral_eq_ofDigitChars digits]

theorem toDigits_ofDigitChars {n : Nat} (filled : 0 < n) :
    Nat.toDigits 10 (Nat.ofDigitChars 10 ds n) = Nat.toDigits 10 n ++ ds := by
  induction ds generalizing n with
  | nil => simp
  | cons c cs ih =>
    rw [List.forall_mem_cons] at digits
    have low := value_lt_ten digits.1
    have more : Nat.toDigits 10 (10 * n + (c.toNat - '0'.toNat)) = Nat.toDigits 10 n ++ [c] := by
      rw [← Nat.toDigits_append_toDigits (by decide) filled low, Nat.toDigits_of_lt_base low,
        digitChar_value digits.1]
    rw [Nat.ofDigitChars_cons, ih digits.2 (by omega), more, List.append_assoc,
      List.singleton_append]

/-- Leading zeros apart, digits are the decimal form of what they denote. -/
theorem toDigits_of_filled {c : Char} {cs : List Char} (first : ds = c :: cs) (filled : c ≠ '0') :
    Nat.toDigits 10 (Nat.ofDigitChars 10 ds 0) = ds := by
  subst first
  rw [List.forall_mem_cons] at digits
  have low := value_lt_ten digits.1
  have positive : 0 < 10 * 0 + (c.toNat - '0'.toNat) := by
    have least := (isDigit_iff.mp digits.1).1
    have other : c.toNat ≠ '0'.toNat := fun same => filled (Char.toNat_inj.mp same)
    change 48 ≤ c.toNat at least
    change c.toNat ≠ 48 at other
    change 0 < 10 * 0 + (c.toNat - 48)
    omega
  rw [Nat.ofDigitChars_cons, toDigits_ofDigitChars digits.2 positive, Nat.mul_zero, Nat.zero_add,
    Nat.toDigits_of_lt_base low, digitChar_value digits.1, List.singleton_append]

/-- How many digits count is how long the decimal form is; zero has none that count. -/
theorem significantDigits_le_iff {limit : Nat} (positive : 0 < limit) :
    significantDigits ds ≤ limit ↔
      (Nat.toDigits 10 (Nat.ofDigitChars 10 ds 0)).length ≤ limit := by
  unfold significantDigits
  rw [← ofDigitChars_dropZeros ds]
  have kept : ∀ d ∈ ds.dropWhile (· == '0'), d.isDigit = true :=
    fun d mem => digits d ((List.dropWhile_sublist _).subset mem)
  cases rest : ds.dropWhile (· == '0') with
  | nil =>
    simp only [List.length_nil, Nat.ofDigitChars_nil, Nat.toDigits_zero, List.length_singleton]
    omega
  | cons c cs =>
    have filled : c ≠ '0' := by
      have head := List.head?_dropWhile_not (· == '0') ds
      rw [rest] at head
      exact ne_of_beq_false head
    rw [rest] at kept
    rw [toDigits_of_filled kept rfl filled]

end Length

end Text

namespace Settings

/-- A text is read as an integer exactly if it denotes it and its decimal form is not too long. -/
theorem integerText_eq_ok_iff (s : String) (n : Int) :
    integerText s = .ok n ↔
      Text.Denotes s.toList n ∧ (Nat.toDigits 10 n.natAbs).length ≤ numeralLimit := by
  unfold integerText
  constructor
  · intro accepted
    split at accepted
    · cases accepted
    · rename_i negative ds read
      have written := Text.readNumeral?_eq_some_iff.mp read
      have digits := written.digits
      split at accepted
      · cases accepted
      · rename_i short
        rw [Except.ok.injEq] at accepted
        subst accepted
        rw [Nat.not_lt, Text.significantDigits_le_iff digits (by decide)] at short
        refine ⟨⟨negative, ds, written, Text.signedNumeral_eq digits negative⟩, ?_⟩
        rw [Text.natAbs_signedNumeral, Text.numeral_eq_ofDigitChars digits]
        exact short
  · rintro ⟨⟨negative, ds, written, rfl⟩, short⟩
    have digits := written.digits
    rw [← Text.signedNumeral_eq digits, Text.natAbs_signedNumeral,
      Text.numeral_eq_ofDigitChars digits, ← Text.significantDigits_le_iff digits (by decide)]
      at short
    simp only [Text.readNumeral?_eq_some_iff.mpr written, Nat.not_lt.mpr short, if_false,
      Text.signedNumeral_eq digits]

/-- Reading undoes writing. -/
theorem integerText_toString {n : Int}
    (short : (Nat.toDigits 10 n.natAbs).length ≤ numeralLimit) :
    integerText (toString n) = .ok n :=
  (integerText_eq_ok_iff _ n).mpr ⟨Text.denotes_toString n, short⟩

end Settings
end GatedCache
