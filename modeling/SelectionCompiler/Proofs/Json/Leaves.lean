import SelectionCompiler.Json.Reader
import SelectionCompiler.Proofs.Reading.Literals

/-!
# Reading the leaves of a JSON text

A string is read back up to its closing quote, a word up to its last letter, and a whole number up
to the first character with which a number cannot go on.  Whole numbers that 64 bits can hold, with
or without a sign, stay what they are; larger ones would be taken for doubles.
-/

namespace SelectionCompiler.Json

open Text

/-! ### Strings -/

theorem scanString_unicode {c : Char} (hc : c.toNat < 0x20) (s : List Char) :
    scanString none
        ('\\' :: 'u' :: '0' :: '0' :: hexDigit (c.toNat / 16) :: hexDigit (c.toNat % 16) :: s) =
      (scanString none s).cons c := by
  have hnumber : hexNumber? '0' '0' (hexDigit (c.toNat / 16)) (hexDigit (c.toNat % 16)) =
      some c.toNat := by
    have hhigh := Executable.Token.hexValue?_hexDigit (c.toNat / 16) (by omega)
    have hlow := Executable.Token.hexValue?_hexDigit (c.toNat % 16) (by omega)
    have hzero : hexValue? '0' = some 0 := rfl
    simp only [hexNumber?, hzero, hhigh, hlow, Option.bind_eq_bind, Option.bind_some,
      Option.pure_def, Option.some.injEq]
    omega
  have hhigh : isHighSurrogate c.toNat = false := by
    simp only [isHighSurrogate, Bool.and_eq_false_iff, decide_eq_false_iff_not]
    omega
  have hlow : isLowSurrogate c.toNat = false := by
    simp only [isLowSurrogate, Bool.and_eq_false_iff, decide_eq_false_iff_not]
    omega
  rw [scanString.eq_5 _ _ _ _ _ _ hnumber]
  simp only [hhigh, hlow, Bool.false_eq_true, if_false, Char.ofNat_toNat]

theorem scanString_letter {letter c : Char} (hletter : letter ≠ 'u')
    (hc : escapedChar? letter = some c) (s : List Char) :
    scanString none ('\\' :: letter :: s) = (scanString none s).cons c := by
  rw [scanString, hc]
  · rfl
  · rintro _ _ _ _ _ heq
    exact absurd heq hletter
  · exact hletter

theorem scanString_plain {c : Char} (hquote : c ≠ '"') (hbackslash : c ≠ '\\')
    (hshown : 0x20 ≤ c.toNat) (s : List Char) :
    scanString none (c :: s) = (scanString none s).cons c := by
  rw [scanString]
  · rw [if_neg (Nat.not_lt.mpr hshown)]
    rfl
  · exact hquote
  · rintro _ _ _ _ _ heq
    exact absurd heq hbackslash
  · rintro _ heq
    exact absurd heq hbackslash
  · rintro heq
    exact absurd heq hbackslash
  · rintro _ _ heq
    exact absurd heq hbackslash

theorem scanString_escapeChar (c : Char) (s : List Char) :
    scanString none (escapeChar c ++ s) = (scanString none s).cons c := by
  rcases escapeChar_cases c with ⟨letter, hescape, hletter, hc⟩ | ⟨hescape, hc⟩ |
    ⟨hescape, hquote, hbackslash, hshown⟩
  · rw [hescape]
    have hu : letter ≠ 'u' := by
      rintro rfl
      revert hletter
      decide
    exact scanString_letter hu hc s
  · rw [hescape]
    exact scanString_unicode hc s
  · rw [hescape]
    exact scanString_plain hquote hbackslash hshown s

theorem scanString_escaped (chars s : List Char) :
    scanString none (escaped chars ++ '"' :: s) = .complete chars s := by
  induction chars with
  | nil => rfl
  | cons c rest ih =>
      rw [escaped, List.flatMap_cons, List.append_assoc, scanString_escapeChar]
      rw [escaped] at ih
      rw [ih]
      rfl

theorem readString_escaped (text : String) (s : List Char) :
    readString (escaped text.toList ++ '"' :: s) = (.string text, some s) := by
  unfold readString
  rw [scanString_escaped]
  simp only [String.ofList_toList]

/-! ### Words -/

theorem readWord_append (word : List Char) (value : Draft) (s : List Char) :
    readWord word value (word ++ s) = (value, some s) := by
  have hword : word.isPrefixOf (word ++ s) = true :=
    List.isPrefixOf_iff_prefix.mpr (List.prefix_append word s)
  unfold readWord
  rw [if_pos hword, List.drop_left]

/-! ### Numbers -/

/-- A number does not go on behind this point. -/
def EndsNumber (s : List Char) : Prop :=
  ∀ c ∈ s.head?, c.isDigit = false ∧ c ≠ '.' ∧ c ≠ 'e' ∧ c ≠ 'E'

/-- A whole number that stays whole when it is read. -/
def IsWhole (n : Int) : Prop :=
  Int64.minValue.toInt ≤ n ∧ n < UInt64.size

variable {s : List Char}

theorem readDigits_digits (n : Nat) (hs : EndsNumber s) :
    readDigits (digits n ++ s) = .ok (digits n, s) := by
  obtain ⟨htake, hdrop⟩ := Executable.Token.cut_append
    (fun c hc => isDigit_of_mem_digits (n := n) hc) fun c hc => (hs c hc).1
  have hdigits : digits n ≠ [] := Nat.toDigits_ne_nil
  unfold readDigits
  rw [htake, hdrop]
  split
  · contradiction
  · contradiction
  · rfl

theorem readFraction_of_endsNumber (hs : EndsNumber s) : readFraction s = .ok ([], s) := by
  unfold readFraction
  split
  · exact absurd rfl (hs '.' rfl).2.1
  · rfl

theorem readExponent_of_endsNumber (hs : EndsNumber s) : readExponent s = .ok (none, s) := by
  unfold readExponent
  cases s with
  | nil => rfl
  | cons c rest =>
      obtain ⟨-, -, hlower, hupper⟩ := hs c rfl
      simp [hlower, hupper]

/-- Only zero itself starts with a zero. -/
theorem no_zero_in_front (n : Nat) :
    (decide ((digits n).head? = some '0') && decide (1 < (digits n).length)) = false := by
  rcases Nat.eq_zero_or_pos n with rfl | hn
  · decide
  · obtain ⟨first, rest, hdigits, hfirst⟩ := exists_digits_of_pos hn
    simp [hdigits, hfirst]

theorem numberDraft_of_nonneg {n : Nat} (hn : n < UInt64.size) :
    numberDraft false (digits n) [] none = .integer n := by
  simp [numberDraft, Decimal.ofDigits_digits, hn]

theorem numberDraft_of_neg {n : Nat} (hpos : 0 < n) (hn : Int64.minValue.toInt ≤ -(n : Int)) :
    numberDraft true (digits n) [] none = .integer (-n) := by
  simp only [numberDraft, Decimal.ofDigits_digits, hpos, hn, List.isEmpty_nil, Option.isNone_none,
    Bool.not_true, Bool.and_false, Bool.false_and, Bool.and_self, decide_true, Bool.false_eq_true,
    if_true, if_false]

theorem readNumber_digits (n : Nat) (hs : EndsNumber s) :
    readNumber (digits n ++ s) = (numberDraft false (digits n) [] none, some s) := by
  have hread := readDigits_digits n hs
  have hzero := no_zero_in_front n
  have hminus : '-' ∉ digits n := fun hmem => ne_minus_of_mem_digits hmem rfl
  cases hdigits : digits n with
  | nil => exact absurd hdigits Nat.toDigits_ne_nil
  | cons first rest =>
      rw [hdigits] at hread hzero hminus
      have hfirst : first ≠ '-' := Ne.symm (List.ne_of_not_mem_cons hminus)
      rw [List.cons_append] at hread ⊢
      simp only [readNumber, List.cons.injEq, hfirst, false_and, imp_self, implies_true, hread,
        hzero, readFraction_of_endsNumber hs, readExponent_of_endsNumber hs, Bool.false_eq_true,
        if_false]

theorem readNumber_minus (n : Nat) (hs : EndsNumber s) :
    readNumber ('-' :: (digits n ++ s)) = (numberDraft true (digits n) [] none, some s) := by
  simp only [readNumber, readDigits_digits n hs, no_zero_in_front n,
    readFraction_of_endsNumber hs, readExponent_of_endsNumber hs, Bool.false_eq_true, if_false]

theorem readNumber_decimal {n : Int} (hn : IsWhole n) (hs : EndsNumber s) :
    readNumber ((decimal n).toList ++ s) = (.integer n, some s) := by
  by_cases hsign : n < 0
  · have habs : -(n.natAbs : Int) = n := by omega
    have hlower : Int64.minValue.toInt ≤ -(n.natAbs : Int) := by
      rw [habs]
      exact hn.1
    rw [toList_decimal_of_neg hsign, List.cons_append, readNumber_minus _ hs,
      numberDraft_of_neg (by omega) hlower, habs]
  · have habs : (n.natAbs : Int) = n := by omega
    have hupper : n.natAbs < UInt64.size := by
      have hsize := hn.2
      omega
    rw [toList_decimal_of_nonneg (by omega), readNumber_digits _ hs, numberDraft_of_nonneg hupper,
      habs]

end SelectionCompiler.Json
