import Mathlib.Data.List.TakeWhile
import SelectionCompiler.Proofs.Reading.Tokens
import SelectionCompiler.Text.Quoted

/-!
# Numbers and strings

The two literals whose text differs from what they denote.  A number is read up to the first
character at which a number ends, and its digits have no superfluous zero in front.  A string is
read up to the first quote that is not escaped; an empty one could be the start of a block string,
so no third quote may stand behind it.
-/

namespace SelectionCompiler

/-! ### Digits -/

namespace Decimal

theorem ofDigits_digits (n : Nat) : ofDigits (Text.digits n) = n := by
  have hstep : ∀ digits : List Char, ofDigits digits = Nat.ofDigitChars 10 digits 0 := by
    intro digits
    simp only [ofDigits, digitValue, Nat.ofDigitChars_eq_foldl, Nat.mul_comm]
  rw [hstep]
  exact Nat.ofDigitChars_ten_toDigits

end Decimal

namespace Text

theorem toList_decimal_of_neg {n : Int} (hn : n < 0) :
    (decimal n).toList = '-' :: digits n.natAbs := by
  unfold decimal
  rw [if_pos hn, String.toList_ofList]

theorem toList_decimal_of_nonneg {n : Int} (hn : 0 ≤ n) :
    (decimal n).toList = digits n.natAbs := by
  unfold decimal
  rw [if_neg (Int.not_lt.mpr hn), String.toList_ofList]

theorem isDigit_of_mem_digits {n : Nat} {c : Char} (hc : c ∈ digits n) : c.isDigit = true :=
  Nat.isDigit_of_mem_toDigits (by decide) (by decide) hc

theorem ne_minus_of_mem_digits {n : Nat} {c : Char} (hc : c ∈ digits n) : c ≠ '-' := by
  rintro rfl
  have hdigit := isDigit_of_mem_digits hc
  cases hdigit

/-- The first digit of a number that is not zero is no zero. -/
theorem exists_digits_of_pos {n : Nat} (hn : 0 < n) :
    ∃ first rest, digits n = first :: rest ∧ first ≠ '0' := by
  induction n using Nat.base_induction 10 (by decide) with
  | single m hm =>
      refine ⟨m.digitChar, [], Nat.toDigits_of_lt_base hm, ?_⟩
      have hall : ∀ d < 10, 0 < d → d.digitChar ≠ '0' := by decide
      exact hall m hm hn
  | digit m k hk hm ih =>
      obtain ⟨first, rest, hdigits, hfirst⟩ := ih hm
      refine ⟨first, rest ++ Nat.toDigits 10 k, ?_, hfirst⟩
      rw [digits, ← Nat.toDigits_append_toDigits (by decide) hm hk]
      rw [digits] at hdigits
      rw [hdigits, List.cons_append]

/-! ### Escapes -/

/-- The letters with which an escape can be written. -/
def escapeLetters : List Char :=
  ['"', '\\', 'b', 't', 'n', 'f', 'r']

/-- A character is escaped by a letter that denotes it, or by its number if it is a control
character, or it stands for itself. -/
theorem escapeChar_cases (c : Char) :
    (∃ letter, escapeChar c = ['\\', letter] ∧ letter ∈ escapeLetters ∧
        Json.escapedChar? letter = some c) ∨
      (escapeChar c = ['\\', 'u', '0', '0', hexDigit (c.toNat / 16), hexDigit (c.toNat % 16)] ∧
        c.toNat < 0x20) ∨
      (escapeChar c = [c] ∧ c ≠ '"' ∧ c ≠ '\\' ∧ 0x20 ≤ c.toNat) := by
  unfold escapeChar
  -- The seven characters with a letter of their own.
  iterate 7
    split
    · subst_vars
      exact .inl ⟨_, rfl, by decide, rfl⟩
  split
  · rename_i hcontrol
    exact .inr (.inl ⟨rfl, hcontrol⟩)
  · rename_i hquote hbackslash _ _ _ _ _ hshown
    exact .inr (.inr ⟨rfl, hquote, hbackslash, Nat.le_of_not_lt hshown⟩)

end Text

theorem Decimal.splitDigits_digits (n : Nat) :
    splitDigits (Text.digits n) = (Text.digits n, []) := by
  unfold splitDigits
  rw [List.takeWhile_eq_self_iff.mpr fun c hc => Text.isDigit_of_mem_digits hc,
    List.dropWhile_eq_nil_iff.mpr fun c hc => Text.isDigit_of_mem_digits hc]

namespace Executable.Token

open Text

variable {dialect : Dialect}

theorem isWhole_digits (n : Nat) : isWhole (digits n) = true := by
  rcases Nat.eq_zero_or_pos n with rfl | hn
  · rfl
  · obtain ⟨first, rest, hdigits, hfirst⟩ := exists_digits_of_pos hn
    rw [hdigits]
    unfold isWhole
    split
    · contradiction
    · rename_i heq
      exact absurd (List.cons.inj heq).1 hfirst
    · rfl

theorem ofNumber?_decimal {n : Int} (hn : dialect.admitsInt n = true) :
    ofNumber? dialect (decimal n).toList = some (.int n) := by
  by_cases hsign : n < 0
  · have habs : -(n.natAbs : Int) = n := by omega
    rw [toList_decimal_of_neg hsign]
    simp only [ofNumber?, Decimal.splitDigits_digits, isWhole_digits, Decimal.ofDigits_digits,
      habs, hn, Bool.not_true, Bool.false_eq_true, if_true, if_false]
  · have habs : (n.natAbs : Int) = n := by omega
    rw [toList_decimal_of_nonneg (by omega)]
    unfold ofNumber?
    split
    rename_i heq
    split at heq
    · rename_i rest hdigits
      exact absurd rfl (ne_minus_of_mem_digits (n := n.natAbs) (c := '-') (by simp [hdigits]))
    · cases heq
      simp only [Decimal.splitDigits_digits, isWhole_digits, Decimal.ofDigits_digits,
        habs, hn, Bool.not_true, Bool.false_eq_true, if_true, if_false]

/-! ### Numbers in a text -/

/-- A number starts with a minus sign or a digit. -/
def opensDecimal (c : Char) : Bool :=
  c = '-' || c.isDigit

theorem opensDecimal_of_isDigit {c : Char} (hc : c.isDigit = true) : opensDecimal c = true := by
  unfold opensDecimal
  rw [hc, Bool.or_true]

theorem mem_of_opensDecimal {c : Char} (hc : opensDecimal c = true) :
    c ∈ ['-', '0', '1', '2', '3', '4', '5', '6', '7', '8', '9'] := by
  rcases Bool.or_eq_true_iff.mp hc with hminus | hdigit
  · rw [of_decide_eq_true hminus]
    decide
  · have hbounds := Char.isDigit_iff_toNat.mp hdigit
    have hzero : '0'.toNat = 48 := rfl
    have hnine : '9'.toNat = 57 := rfl
    have hvalue : c.toNat = 48 ∨ c.toNat = 49 ∨ c.toNat = 50 ∨ c.toNat = 51 ∨ c.toNat = 52 ∨
        c.toNat = 53 ∨ c.toNat = 54 ∨ c.toNat = 55 ∨ c.toNat = 56 ∨ c.toNat = 57 := by omega
    rw [← Char.ofNat_toNat c]
    rcases hvalue with h | h | h | h | h | h | h | h | h | h <;> (rw [h]; decide)

/-- What decides that a character opens no token but a number. -/
theorem opensDecimal_spec {c : Char} (hc : opensDecimal c = true) :
    isVisible c = true ∧ isPunctuator c = false ∧ c ≠ '.' ∧ Name.isStart c = false := by
  have hall : (['-', '0', '1', '2', '3', '4', '5', '6', '7', '8', '9'].all fun d =>
      isVisible d && !isPunctuator d && d != '.' && !Name.isStart d) = true := by
    decide
  simpa [and_assoc] using List.all_eq_true.mp hall c (mem_of_opensDecimal hc)

theorem exists_decimal (n : Int) :
    ∃ first rest, (decimal n).toList = first :: rest ∧ opensDecimal first = true ∧
      ∀ c ∈ rest, c.isDigit = true := by
  have hdigits : ∀ c ∈ digits n.natAbs, c.isDigit = true := fun c hc => isDigit_of_mem_digits hc
  by_cases hsign : n < 0
  · exact ⟨'-', digits n.natAbs, toList_decimal_of_neg hsign, rfl, hdigits⟩
  · rw [toList_decimal_of_nonneg (by omega)]
    cases hchars : digits n.natAbs with
    | nil => exact absurd hchars Nat.toDigits_ne_nil
    | cons first rest =>
        rw [hchars] at hdigits
        obtain ⟨hfirst, hrest⟩ := List.forall_mem_cons.mp hdigits
        exact ⟨first, rest, rfl, opensDecimal_of_isDigit hfirst, hrest⟩

/-- A number ends at this point, whatever its last character is. -/
def endsDecimal (s : List Char) : Prop :=
  ∀ c ∈ s.head?, ∀ last, Dialect.standard.continuesNumber last c = false

/-- All digits in a row belong to a number. -/
theorem cutNumber_digits {digits s : List Char} (hdigits : ∀ c ∈ digits, c.isDigit = true)
    (hs : endsDecimal s) (last : Char) :
    cutNumber .standard last (digits ++ s) = (digits, s) := by
  induction digits generalizing last with
  | nil =>
      cases s with
      | nil => rfl
      | cons c rest =>
          have hend : Dialect.standard.continuesNumber last c = false := hs c rfl last
          simp [cutNumber, hend]
  | cons digit rest ih =>
      obtain ⟨hdigit, hrest⟩ := List.forall_mem_cons.mp hdigits
      have hinside : Dialect.standard.continuesNumber last digit = true := by
        simp [Dialect.standard, Char.isAlphanum, hdigit]
      rw [List.cons_append, cutNumber, if_pos hinside, ih hrest]

theorem next?_decimal (n : Int) {s : List Char} (hs : endsDecimal s) :
    next? .standard ((decimal n).toList ++ s) = some (.int n, s) := by
  obtain ⟨first, rest, hchars, hfirst, hrest⟩ := exists_decimal n
  obtain ⟨hvisible, hpunctuator, hdot, hstart⟩ := opensDecimal_spec hfirst
  have hopens : (first = '-' || first.isDigit) = true := hfirst
  unfold next?
  rw [hchars, List.cons_append, skipIgnored_of_isVisible hvisible]
  simp only [hpunctuator, hdot, hstart, hopens, cutNumber_digits hrest hs, Bool.false_eq_true,
    if_true, if_false]
  rw [← hchars, ofNumber?_decimal rfl]
  rfl

/-! ### Strings in a text -/

theorem hexValue?_hexDigit : ∀ d < 16, Json.hexValue? (hexDigit d) = some d := by
  decide

theorem scanQuoted_unicode {c : Char} (hc : c.toNat < 0x20) (s : List Char) :
    scanQuoted .standard
        ('\\' :: 'u' :: '0' :: '0' :: hexDigit (c.toNat / 16) :: hexDigit (c.toNat % 16) :: s) =
      (scanQuoted .standard s).map fun found => (c :: found.1, found.2) := by
  have hnumber : Dialect.standard.escapedNumber? '0' '0' (hexDigit (c.toNat / 16))
      (hexDigit (c.toNat % 16)) = some c.toNat := by
    have hhigh := hexValue?_hexDigit (c.toNat / 16) (by omega)
    have hlow := hexValue?_hexDigit (c.toNat % 16) (by omega)
    have hzero : Json.hexValue? '0' = some 0 := rfl
    simp only [Dialect.standard, Json.hexNumber?, hzero, hhigh, hlow,
      Option.bind_eq_bind, Option.bind_some, Option.pure_def, Option.some.injEq]
    omega
  have hhigh : Json.isHighSurrogate c.toNat = false := by
    simp only [Json.isHighSurrogate, Bool.and_eq_false_iff, decide_eq_false_iff_not]
    omega
  have hlow : Json.isLowSurrogate c.toNat = false := by
    simp only [Json.isLowSurrogate, Bool.and_eq_false_iff, decide_eq_false_iff_not]
    omega
  rw [scanQuoted, hnumber]
  simp only [Option.bind_eq_bind, Option.bind_some, hhigh, hlow, Bool.or_false, Bool.false_eq_true,
    if_false, Char.ofNat_toNat]
  cases scanQuoted .standard s <;> rfl

theorem scanQuoted_letter {letter c : Char} (hletter : letter ≠ 'u')
    (hc : dialect.escapedChar? letter = some c) (s : List Char) :
    scanQuoted dialect ('\\' :: letter :: s) =
      (scanQuoted dialect s).map fun found => (c :: found.1, found.2) := by
  rw [scanQuoted, hc]
  · cases scanQuoted dialect s <;> rfl
  · rintro _ _ _ _ _ heq
    exact absurd heq hletter

theorem scanQuoted_plain {c : Char} (hquote : c ≠ '"') (hbackslash : c ≠ '\\')
    (hc : dialect.admitsChar c = true) (s : List Char) :
    scanQuoted dialect (c :: s) =
      (scanQuoted dialect s).map fun found => (c :: found.1, found.2) := by
  rw [scanQuoted]
  · simp only [hbackslash, hc, decide_false, Bool.not_true, Bool.or_false, Bool.false_eq_true,
      if_false]
    cases scanQuoted dialect s <;> rfl
  · exact hquote
  · rintro _ _ _ _ _ heq
    exact absurd heq hbackslash
  · rintro _ _ heq
    exact absurd heq hbackslash

theorem scanQuoted_escapeChar (c : Char) (s : List Char) :
    scanQuoted .standard (escapeChar c ++ s) =
      (scanQuoted .standard s).map fun found => (c :: found.1, found.2) := by
  rcases escapeChar_cases c with ⟨letter, hescape, hletter, hc⟩ | ⟨hescape, hc⟩ |
    ⟨hescape, hquote, hbackslash, hshown⟩
  · rw [hescape]
    have hu : letter ≠ 'u' := by
      rintro rfl
      revert hletter
      decide
    exact scanQuoted_letter hu hc s
  · rw [hescape]
    exact scanQuoted_unicode hc s
  · rw [hescape]
    have hplain : Dialect.standard.admitsChar c = true := by
      simp [Dialect.standard, hshown]
    exact scanQuoted_plain hquote hbackslash hplain s

theorem scanQuoted_escaped (chars s : List Char) :
    scanQuoted .standard (escaped chars ++ '"' :: s) = some (chars, s) := by
  induction chars with
  | nil => rfl
  | cons c rest ih =>
      rw [escaped, List.flatMap_cons, List.append_assoc, scanQuoted_escapeChar]
      rw [escaped] at ih
      rw [ih]
      rfl

theorem head?_escapeChar (c : Char) (s : List Char) : (escapeChar c ++ s).head? ≠ some '"' := by
  rcases escapeChar_cases c with ⟨letter, hescape, _⟩ | ⟨hescape, _⟩ | ⟨hescape, hquote, _⟩
  · simp [hescape]
  · simp [hescape]
  · simpa [hescape] using hquote

/-- A block string does not start here. -/
def endsString (s : List Char) : Prop :=
  s.head? ≠ some '"'

theorem ofQuoted?_escaped (chars : List Char) {s : List Char} (hs : endsString s) :
    ofQuoted? .standard (escaped chars ++ '"' :: s) =
      some (.string (String.ofList chars), s) := by
  unfold ofQuoted?
  split
  · -- Two quotes in a row would be the closing one and another one behind it.
    rename_i rest hquotes
    cases chars with
    | nil =>
        refine absurd ?_ hs
        rw [(List.cons.inj hquotes).2]
        rfl
    | cons c chars =>
        refine absurd ?_ (head?_escapeChar c (escaped chars ++ '"' :: s))
        rw [escaped, List.flatMap_cons, List.append_assoc] at hquotes
        rw [escaped, hquotes]
        rfl
  · rw [scanQuoted_escaped]
    rfl

theorem next?_quoted (text : String) {s : List Char} (hs : endsString s) :
    next? .standard ((quoted text).toList ++ s) = some (.string text, s) := by
  have hchars : (quoted text).toList ++ s = '"' :: (escaped text.toList ++ '"' :: s) := by
    simp [quoted]
  have hvisible : isVisible '"' = true := by decide
  have hpunctuator : isPunctuator '"' = false := by decide
  have hstart : Name.isStart '"' = false := by decide
  have hnumber : ('"' = '-' || '"'.isDigit) = false := by decide
  have hdot : '"' ≠ '.' := by decide
  unfold next?
  rw [hchars, skipIgnored_of_isVisible hvisible]
  simp only [hpunctuator, hdot, hstart, hnumber, Bool.false_eq_true, if_true, if_false]
  rw [ofQuoted?_escaped _ hs, String.ofList_toList]

end Executable.Token

end SelectionCompiler
