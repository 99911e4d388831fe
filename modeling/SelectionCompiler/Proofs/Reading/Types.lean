import SelectionCompiler.Proofs.Reading.Tokens
import SelectionCompiler.Proofs.WritableTypes

/-!
# Reading types back

The text of a type that can be written is read as that type.  The reader looks at both ends of a
text first, and neither end of such a text is blank.  Its last character tells which wrapper is
outermost: an exclamation mark, a bracket, or a character of the name at the core.
-/

namespace SelectionCompiler

/-! ### Characters of names -/

namespace Name

theorem toNat_lt_of_isPart {c : Char} (hc : isPart c = true) : c.toNat < 0x80 := by
  simp only [isPart, isStart, Bool.or_eq_true, beq_iff_eq] at hc
  rcases hc with (hletter | rfl) | hdigit
  · have hcase : (c.isUpper || c.isLower) = true := hletter
    rcases (Bool.or_eq_true _ _).mp hcase with hupper | hlower
    · have hle : c.val ≤ 'Z'.val := (of_decide_eq_true hupper).2
      exact Nat.lt_of_le_of_lt (UInt32.le_iff_toNat_le.mp hle) (by decide)
    · have hle : c.val ≤ 'z'.val := of_decide_eq_true (Bool.and_eq_true_iff.mp hlower).2
      exact Nat.lt_of_le_of_lt (UInt32.le_iff_toNat_le.mp hle) (by decide)
  · decide
  · have hbounds := Char.isDigit_iff_toNat.mp hdigit
    have hnine : '9'.toNat = 57 := rfl
    omega

/-- A character of a name is no blank and none of the marks that stand around names. -/
theorem isPart_spec {c : Char} (hc : isPart c = true) :
    Text.isBlank c = false ∧ c ≠ '!' ∧ c ≠ '[' ∧ c ≠ ']' ∧ c ≠ ',' ∧ c ≠ ':' := by
  have hall : ∀ n < 0x80, isPart (Char.ofNat n) = true →
      Text.isBlank (Char.ofNat n) = false ∧ Char.ofNat n ≠ '!' ∧ Char.ofNat n ≠ '[' ∧
        Char.ofNat n ≠ ']' ∧ Char.ofNat n ≠ ',' ∧ Char.ofNat n ≠ ':' := by
    decide
  have hspec := hall c.toNat (toNat_lt_of_isPart hc)
  rw [Char.ofNat_toNat] at hspec
  exact hspec hc

theorem isPart_of_mem {name : String} (hname : isValid name = true) :
    ∀ c ∈ name.toList, isPart c = true := by
  obtain ⟨first, rest, hchars, hfirst, hrest⟩ := Executable.Token.exists_of_isValid hname
  intro c hc
  rw [hchars] at hc
  rcases List.mem_cons.mp hc with rfl | hc
  · unfold isPart
    rw [hfirst, Bool.true_or]
  · exact hrest c hc

end Name

/-! ### Trimmed texts -/

namespace Text

/-- Neither end of the text is blank. -/
structure IsTrimmed (s : List Char) : Prop where
  head : ∀ c ∈ s.head?, isBlank c = false
  last : ∀ c ∈ s.getLast?, isBlank c = false

theorem IsTrimmed.trim_eq {s : List Char} (hs : IsTrimmed s) : trim s = s := by
  have hstart : trimStart s = s := by
    cases s with
    | nil => rfl
    | cons c rest => exact List.dropWhile_cons_of_neg (by simp [hs.head c rfl])
  have hend : s.reverse.dropWhile isBlank = s.reverse := by
    cases hreverse : s.reverse with
    | nil => rfl
    | cons c rest =>
        have hlast : s.getLast? = some c := by rw [← List.head?_reverse, hreverse, List.head?_cons]
        exact List.dropWhile_cons_of_neg (by simp [hs.last c hlast])
  rw [trim, hstart, trimEnd, hend, List.reverse_reverse]

end Text

namespace TypeRef

/-- The text of a type is not empty, and neither end of it is blank. -/
theorem isTrimmed_text {type : TypeRef} (htype : type.IsWritable) :
    type.text.toList ≠ [] ∧ Text.IsTrimmed type.text.toList := by
  induction type with
  | named name =>
      have hparts := Name.isPart_of_mem htype.baseName
      obtain ⟨first, rest, hchars, -⟩ := Executable.Token.exists_of_isValid htype.baseName
      constructor
      · intro hempty
        rw [show (named name).text.toList = _ from hchars] at hempty
        cases hempty
      · exact ⟨fun c hc => (Name.isPart_spec (hparts c (List.mem_of_head? hc))).1,
          fun c hc => (Name.isPart_spec (hparts c (List.mem_of_getLast? hc))).1⟩
  | list element ih =>
      constructor
      · simp [text]
      · exact ⟨by simp [text, Text.isBlank], by simp [text, Text.isBlank, List.getLast?_cons]⟩
  | nonNull inner ih =>
      obtain ⟨hne, htrimmed⟩ := ih htype.inner.1
      obtain ⟨first, rest, hchars⟩ := List.exists_cons_of_ne_nil hne
      constructor
      · simp [text]
      · refine ⟨fun c hc => htrimmed.head c ?_, by simp [text, Text.isBlank]⟩
        simpa [text, hchars] using hc

/-! ### Steps of the reader -/

theorem beforeLast?_append (c : Char) (s : List Char) : beforeLast? c (s ++ [c]) = some s := by
  simp [beforeLast?]

theorem beforeLast?_eq_none {c : Char} {s : List Char} (hlast : s.getLast? ≠ some c) :
    beforeLast? c s = none := by
  simp [beforeLast?, hlast]

theorem ofChars_marker {s inside : List Char} {type : TypeRef}
    (htext : Text.trim s = inside ++ ['!']) (hinside : ofChars inside = .ok type)
    (hmarker : type.isNonNull = false) : ofChars s = .ok (.nonNull type) := by
  rw [ofChars]
  split
  · rename_i htrim
    rw [htext] at htrim
    simp at htrim
  · rename_i first rest htrim
    rw [htext] at htrim
    split
    · rename_i before hbefore
      rw [← htrim, beforeLast?_append] at hbefore
      cases hbefore
      simp [hinside, hmarker]
    · rename_i hbefore
      rw [← htrim, beforeLast?_append] at hbefore
      cases hbefore

theorem ofChars_brackets {s inside : List Char} {type : TypeRef}
    (htext : Text.trim s = '[' :: (inside ++ [']'])) (hinside : ofChars inside = .ok type) :
    ofChars s = .ok (.list type) := by
  have hmarker : beforeLast? '!' ('[' :: (inside ++ [']'])) = none :=
    beforeLast?_eq_none (by simp [List.getLast?_cons])
  rw [ofChars]
  split
  · rename_i htrim
    rw [htext] at htrim
    cases htrim
  · rename_i first rest htrim
    rw [htext] at htrim
    cases htrim
    split
    · rename_i before hbefore
      rw [hmarker] at hbefore
      cases hbefore
    · rw [if_pos rfl]
      split
      · rename_i before hbefore
        rw [beforeLast?_append] at hbefore
        cases hbefore
        simp [hinside]
      · rename_i hbefore
        rw [beforeLast?_append] at hbefore
        cases hbefore

theorem ofChars_name {s : List Char} {name : String} (htext : Text.trim s = name.toList)
    (hname : Name.isValid name = true) : ofChars s = .ok (.named name) := by
  have hlast : ∀ c, name.toList.getLast? = some c → c ≠ '!' ∧ c ≠ ']' := by
    intro c hc
    obtain ⟨-, hmarker, -, hclose, -⟩ :=
      Name.isPart_spec (Name.isPart_of_mem hname c (List.mem_of_getLast? hc))
    exact ⟨hmarker, hclose⟩
  have hmarker : beforeLast? '!' name.toList = none :=
    beforeLast?_eq_none fun hlast' => (hlast _ hlast').1 rfl
  rw [ofChars]
  split
  · rename_i htrim
    rw [htext] at htrim
    rw [Name.isValid, htrim] at hname
    cases hname
  · rename_i first rest htrim
    rw [htext] at htrim
    have hopen : first ≠ '[' := by
      have hfirst : first ∈ name.toList := by rw [htrim]; exact List.mem_cons_self
      exact (Name.isPart_spec (Name.isPart_of_mem hname first hfirst)).2.2.1
    rw [← htrim]
    split
    · rename_i before hbefore
      rw [hmarker] at hbefore
      cases hbefore
    · rw [if_neg hopen, if_neg fun hlast' => (hlast _ hlast').2 rfl,
        if_pos (show Name.isNameChars name.toList = true from hname), String.ofList_toList]

/-- A type that can be written is read back from its text. -/
theorem read_text {type : TypeRef} (htype : type.IsWritable) : read type.text = .ok type := by
  unfold read
  induction type with
  | named name => exact ofChars_name (isTrimmed_text htype).2.trim_eq htype.baseName
  | list element ih =>
      have htext : (list element).text.toList = '[' :: (element.text.toList ++ [']']) := by
        simp [text]
      refine ofChars_brackets ?_ (ih htype.element)
      rw [(isTrimmed_text htype).2.trim_eq, htext]
  | nonNull inner ih =>
      obtain ⟨hinner, hmarker⟩ := htype.inner
      have htext : (nonNull inner).text.toList = inner.text.toList ++ ['!'] := by
        simp [text]
      refine ofChars_marker ?_ (ih hinner) hmarker
      rw [(isTrimmed_text htype).2.trim_eq, htext]

end TypeRef

end SelectionCompiler
