import Mathlib.Data.List.Chain
import SelectionCompiler.Proofs.Reading.SpacedTokens
import SelectionCompiler.Proofs.Reading.Types

/-!
# Type references as rows of tokens

The grammar of type references knows four tokens: the two brackets, the exclamation mark, and names.
Blanks may stand in front of each of them and behind the last one, and nowhere else.  The reader
never looks for tokens.  It takes blanks and marks off both ends of a text, at one level after the
other, and still it accepts exactly the texts of the grammar.

A text that spells a type has a simple form.  Its name stands in one piece, with nothing but opening
brackets and blanks in front of it, and with nothing but closing brackets, marks and blanks behind
it.  So a bracket in another place, or a blank within a name, is never accepted.
-/

namespace SelectionCompiler

/-! ### Tokens of types -/

namespace TypeRef

open Text

/-- The tokens of the text of a type. -/
def tokens : TypeRef → List String
  | .list element => "[" :: (element.tokens ++ ["]"])
  | .nonNull inner => inner.tokens ++ ["!"]
  | .named name => [name]

theorem flatMap_tokens (type : TypeRef) : type.tokens.flatMap String.toList = type.text.toList := by
  induction type with
  | list element ih => simp [tokens, text, ih]
  | nonNull inner ih => simp [tokens, text, ih]
  | named name => simp [tokens, text]

/-- No token has a blank in it. -/
theorem isBlank_of_mem_tokens {type : TypeRef} (htype : type.IsWritable) :
    ∀ token ∈ type.tokens, ∀ c ∈ token.toList, isBlank c = false := by
  have hsingle : ∀ mark : Char, isBlank mark = false → ∀ c ∈ [mark], isBlank c = false := by
    intro mark hmark c hc
    rw [List.mem_singleton.mp hc]
    exact hmark
  induction type with
  | named name =>
      intro token htoken c hc
      rw [List.mem_singleton.mp htoken] at hc
      exact (Name.isPart_spec (Name.isPart_of_mem htype.baseName c hc)).1
  | list element ih =>
      intro token htoken
      rcases List.mem_cons.mp htoken with rfl | htoken
      · exact hsingle '[' rfl
      · rcases List.mem_append.mp htoken with hinside | hclose
        · exact ih htype.element token hinside
        · rw [List.mem_singleton.mp hclose]
          exact hsingle ']' rfl
  | nonNull inner ih =>
      intro token htoken
      rcases List.mem_append.mp htoken with hinside | hlast
      · exact ih htype.inner.1 token hinside
      · rw [List.mem_singleton.mp hlast]
        exact hsingle '!' rfl

/-! ### What is read is spelled -/

theorem append_of_beforeLast? {c : Char} {s inside : List Char}
    (h : beforeLast? c s = some inside) : s = inside ++ [c] := by
  unfold beforeLast? at h
  split at h
  · rename_i hlast
    rw [← Option.some.inj h]
    exact (List.dropLast_append_getLast? c hlast).symm
  · cases h

theorem spaced_of_ofChars {chars : List Char} {type : TypeRef}
    (hread : ofChars chars = .ok type) : Spaced type.tokens chars := by
  -- Of the ten ways through the grammar seven end in an error.
  fun_induction ofChars chars generalizing type with
  | case1 => cases hread
  | case2 => cases hread
  | case3 => cases hread
  | case4 chars first rest htrim inside hmark inner hinner _ ih =>
      cases hread
      obtain ⟨front, back, hchars, hfront, hback⟩ := exists_trim chars
      rw [htrim, append_of_beforeLast? hmark] at hchars
      rw [hchars]
      refine Spaced.blanks_append hfront (spaced_append_singleton_iff.mpr ?_)
      exact ⟨inside, back, by simp, ih hinner, hback⟩
  | case5 => cases hread
  | case6 chars rest inside hclose element helement htrim _ ih =>
      cases hread
      obtain ⟨front, back, hchars, hfront, hback⟩ := exists_trim chars
      rw [htrim, append_of_beforeLast? hclose] at hchars
      refine spaced_cons_iff.mpr
        ⟨front, inside ++ ("]".toList ++ back), by simp [hchars], hfront, ?_⟩
      exact spaced_append_singleton_iff.mpr ⟨inside, back, rfl, ih helement, hback⟩
  | case7 => cases hread
  | case8 => cases hread
  | case9 chars first rest htrim _ _ _ _ =>
      cases hread
      obtain ⟨front, back, hchars, hfront, hback⟩ := exists_trim chars
      rw [htrim] at hchars
      exact spaced_cons_iff.mpr ⟨front, back, by simp [hchars], hfront, .nil hback⟩
  | case10 => cases hread

/-! ### What is spelled is read -/

theorem isTrimmed_append_mark (s : List Char) : IsTrimmed (trimStart s ++ ['!']) where
  head := by
    intro c hc
    have hstart := List.head?_dropWhile_not isBlank s
    cases hs : trimStart s with
    | nil =>
        rw [hs] at hc
        cases hc
        rfl
    | cons first rest =>
        rw [show s.dropWhile isBlank = first :: rest from hs] at hstart
        rw [hs] at hc
        cases hc
        exact hstart
  last := by
    intro c hc
    rw [List.getLast?_append] at hc
    cases hc
    rfl

theorem ofChars_of_spaced {type : TypeRef} (htype : type.IsWritable) {s : List Char}
    (hs : Spaced type.tokens s) : ofChars s = .ok type := by
  induction type generalizing s with
  | named name =>
      obtain ⟨front, rest, rfl, hfront, hrest⟩ := spaced_cons_iff.mp hs
      cases hrest with
      | nil hback =>
          refine ofChars_name ?_ htype.baseName
          exact (trim_surrounded hfront hback _).trans (isTrimmed_text htype).2.trim_eq
  | list element ih =>
      obtain ⟨front, rest, rfl, hfront, hrest⟩ := spaced_cons_iff.mp hs
      obtain ⟨inside, back, rfl, hinside, hback⟩ := spaced_append_singleton_iff.mp hrest
      refine ofChars_brackets ?_ (ih htype.element hinside)
      have hbrackets : IsTrimmed ('[' :: (inside ++ [']'])) :=
        ⟨by simp [isBlank], by simp [isBlank, List.getLast?_cons]⟩
      calc trim (front ++ ("[".toList ++ (inside ++ ("]".toList ++ back))))
          = trim (front ++ (('[' :: (inside ++ [']'])) ++ back)) := by simp
        _ = trim ('[' :: (inside ++ [']'])) := trim_surrounded hfront hback _
        _ = '[' :: (inside ++ [']']) := hbrackets.trim_eq
  | nonNull inner ih =>
      obtain ⟨hinner, hmarker⟩ := htype.inner
      obtain ⟨inside, back, rfl, hinside, hback⟩ := spaced_append_singleton_iff.mp hs
      -- The blanks in front of the inner type stand in front of the whole one.
      have hstart := hinside.trimStart (isBlank_of_mem_tokens hinner)
      refine ofChars_marker ?_ (ih hinner hstart) hmarker
      calc trim (inside ++ ("!".toList ++ back))
          = trim ((inside.takeWhile isBlank ++ trimStart inside) ++ ("!".toList ++ back)) := by
            rw [trimStart, List.takeWhile_append_dropWhile]
        _ = trim (inside.takeWhile isBlank ++ ((trimStart inside ++ ['!']) ++ back)) := by simp
        _ = trim (trimStart inside ++ ['!']) :=
            trim_surrounded (isBlankRun_takeWhile inside) hback _
        _ = trimStart inside ++ ['!'] := (isTrimmed_append_mark inside).trim_eq

/-! ### The form of a text that spells a type -/

/-- Around the name there are only brackets that open and brackets and marks that close. -/
theorem exists_name_of_spaced {type : TypeRef} {s : List Char} (hs : Spaced type.tokens s) :
    ∃ before after, s = before ++ (type.baseName.toList ++ after) ∧
      (∀ c ∈ before, isBlank c = true ∨ c = '[') ∧
      ∀ c ∈ after, isBlank c = true ∨ c = ']' ∨ c = '!' := by
  induction type generalizing s with
  | named name =>
      obtain ⟨front, rest, rfl, hfront, hrest⟩ := spaced_cons_iff.mp hs
      cases hrest with
      | nil hback => exact ⟨front, rest, rfl, fun c hc => .inl (hfront c hc),
          fun c hc => .inl (hback c hc)⟩
  | list element ih =>
      obtain ⟨front, rest, rfl, hfront, hrest⟩ := spaced_cons_iff.mp hs
      obtain ⟨inside, back, rfl, hinside, hback⟩ := spaced_append_singleton_iff.mp hrest
      obtain ⟨before, after, rfl, hbefore, hafter⟩ := ih hinside
      refine ⟨front ++ '[' :: before, after ++ ']' :: back, by simp [baseName], ?_, ?_⟩
      · intro c hc
        rcases List.mem_append.mp hc with hc | hc
        · exact .inl (hfront c hc)
        · rcases List.mem_cons.mp hc with rfl | hc
          · exact .inr rfl
          · exact hbefore c hc
      · intro c hc
        rcases List.mem_append.mp hc with hc | hc
        · exact hafter c hc
        · rcases List.mem_cons.mp hc with rfl | hc
          · exact .inr (.inl rfl)
          · exact .inl (hback c hc)
  | nonNull inner ih =>
      obtain ⟨inside, back, rfl, hinside, hback⟩ := spaced_append_singleton_iff.mp hs
      obtain ⟨before, after, rfl, hbefore, hafter⟩ := ih hinside
      refine ⟨before, after ++ '!' :: back, by simp [baseName], hbefore, ?_⟩
      intro c hc
      rcases List.mem_append.mp hc with hc | hc
      · exact hafter c hc
      · rcases List.mem_cons.mp hc with rfl | hc
        · exact .inr (.inr rfl)
        · exact .inl (hback c hc)

/-- There are as many closing brackets as opening ones. -/
theorem count_brackets {type : TypeRef} (htype : type.IsWritable) :
    type.text.toList.count '[' = type.text.toList.count ']' := by
  induction type with
  | named name =>
      have hnone : ∀ c ∈ name.toList, c ≠ '[' ∧ c ≠ ']' := by
        intro c hc
        obtain ⟨-, -, hopen, hclose, -⟩ := Name.isPart_spec (Name.isPart_of_mem htype.baseName c hc)
        exact ⟨hopen, hclose⟩
      rw [text, List.count_eq_zero.mpr fun hc => (hnone _ hc).1 rfl,
        List.count_eq_zero.mpr fun hc => (hnone _ hc).2 rfl]
  | list element ih => simp [text, ih htype.element]
  | nonNull inner ih => simp [text, ih htype.inner.1]

/-- Only the text of a non-null type ends in a mark. -/
theorem getLast?_text_ne_mark {type : TypeRef} (htype : type.IsWritable)
    (hmarker : type.isNonNull = false) : type.text.toList.getLast? ≠ some '!' := by
  cases type with
  | named name =>
      intro hlast
      have hpart := Name.isPart_of_mem htype.baseName '!' (List.mem_of_getLast? hlast)
      exact absurd hpart (by decide)
  | list element => simp [text, List.getLast?_cons]
  | nonNull inner => cases hmarker

/-- No mark follows another one. -/
theorem isChain_marks {type : TypeRef} (htype : type.IsWritable) :
    type.text.toList.IsChain fun first second => ¬ (first = '!' ∧ second = '!') := by
  induction type with
  | named name =>
      rw [List.isChain_iff_forall_rel_of_append_cons_cons]
      rintro first second before after hname ⟨rfl, -⟩
      have hpart := Name.isPart_of_mem htype.baseName '!'
        (show '!' ∈ (named name).text.toList by rw [hname]; simp)
      exact absurd hpart (by decide)
  | list element ih =>
      have hbrackets : (list element).text.toList = ['['] ++ (element.text.toList ++ [']']) := by
        simp [text]
      rw [hbrackets]
      refine .append (.singleton _) (.append (ih htype.element) (.singleton _) ?_) ?_
      · rintro first - second hsecond ⟨-, rfl⟩
        cases hsecond
      · rintro first hfirst second - ⟨rfl, -⟩
        cases hfirst
  | nonNull inner ih =>
      obtain ⟨hinner, hmarker⟩ := htype.inner
      rw [text, String.toList_append]
      refine .append (ih hinner) (.singleton _) ?_
      rintro first hfirst second - ⟨rfl, -⟩
      exact getLast?_text_ne_mark hinner hmarker hfirst

/-! ### Texts that spell no type -/

/-- Brackets, marks or blanks stand where no type has them, at whatever depth. -/
inductive Malformed : List Char → Prop where
  /-- There are more brackets of one sort than of the other. -/
  | unbalanced {s : List Char} (hcount : s.count '[' ≠ s.count ']') : Malformed s
  /-- A bracket opens behind something else than brackets that open. -/
  | lateOpening {before : List Char} {c : Char} (hc : c ∈ before) (hshown : isBlank c = false)
      (hother : c ≠ '[') (after : List Char) : Malformed (before ++ '[' :: after)
  /-- A bracket closes in front of something else than brackets that close and marks. -/
  | earlyClosing (before : List Char) {after : List Char} {c : Char} (hc : c ∈ after)
      (hshown : isBlank c = false) (hother : c ≠ ']' ∧ c ≠ '!') : Malformed (before ++ ']' :: after)
  /-- A mark follows another one, perhaps behind blanks. -/
  | doubledMark (before : List Char) {blanks : List Char} (hblanks : IsBlankRun blanks)
      (after : List Char) : Malformed (before ++ '!' :: (blanks ++ '!' :: after))
  /-- There is nothing but blanks between two brackets. -/
  | emptyBrackets (before : List Char) {blanks : List Char} (hblanks : IsBlankRun blanks)
      (after : List Char) : Malformed (before ++ '[' :: (blanks ++ ']' :: after))
  /-- There are blanks between two characters of names. -/
  | brokenName (before : List Char) {blanks : List Char} {first second : Char}
      (hfirst : Name.isPart first = true) (hblanks : IsBlankRun blanks) (hsome : blanks ≠ [])
      (hsecond : Name.isPart second = true) (after : List Char) :
      Malformed (before ++ first :: (blanks ++ second :: after))

/-- An element that is not in the first part of a list stands in the second one. -/
theorem suffix_of_not_mem {first second front back : List Char} {c : Char}
    (hlists : first ++ second = front ++ c :: back) (hc : c ∉ first) : c :: back <:+ second := by
  rcases List.append_eq_append_iff.mp hlists with ⟨others, -, hsecond⟩ | ⟨others, hfirst, hback⟩
  · exact ⟨others, hsecond.symm⟩
  · cases others with
    | nil => exact ⟨[], hback⟩
    | cons next others =>
        obtain ⟨rfl, -⟩ := List.cons.inj hback
        exact absurd (by rw [hfirst]; simp) hc

/-- An element that is not in the second part of a list stands in the first one. -/
theorem prefix_of_not_mem {first second front back : List Char} {c : Char}
    (hlists : front ++ c :: back = first ++ second) (hc : c ∉ second) : front ++ [c] <+: first := by
  rcases List.append_eq_append_iff.mp hlists with ⟨others, hfirst, hback⟩ | ⟨others, -, hsecond⟩
  · cases others with
    | nil => exact absurd (by rw [show second = c :: back from hback.symm]; simp) hc
    | cons next others =>
        obtain ⟨rfl, -⟩ := List.cons.inj hback
        exact ⟨others, by rw [hfirst]; simp⟩
  · exact absurd (by rw [hsecond]; simp) hc

section

variable {type : TypeRef} {front back : List Char}

/-- In front of an opening bracket there are only brackets of its sort and blanks. -/
theorem blank_or_opening_of_spaced (htype : type.IsWritable)
    (hs : Spaced type.tokens (front ++ '[' :: back)) :
    ∀ c ∈ front, isBlank c = true ∨ c = '[' := by
  obtain ⟨before, after, hform, hbefore, hafter⟩ := exists_name_of_spaced hs
  have hbracket : '[' ∉ type.baseName.toList ++ after := by
    intro hmem
    rcases List.mem_append.mp hmem with hname | hbehind
    · exact absurd (Name.isPart_of_mem htype.baseName '[' hname) (by decide)
    · exact absurd (hafter '[' hbehind) (by decide)
  have hahead := prefix_of_not_mem hform hbracket
  exact fun c hc => hbefore c (hahead.subset (by simp [hc]))

/-- Behind a closing bracket there are only brackets of its sort, marks and blanks. -/
theorem blank_or_closing_of_spaced (htype : type.IsWritable)
    (hs : Spaced type.tokens (front ++ ']' :: back)) :
    ∀ c ∈ back, isBlank c = true ∨ c = ']' ∨ c = '!' := by
  obtain ⟨before, after, hform, hbefore, hafter⟩ := exists_name_of_spaced hs
  have hbracket : ']' ∉ before ++ type.baseName.toList := by
    intro hmem
    rcases List.mem_append.mp hmem with hahead | hname
    · exact absurd (hbefore ']' hahead) (by decide)
    · exact absurd (Name.isPart_of_mem htype.baseName ']' hname) (by decide)
  rw [← List.append_assoc] at hform
  have hsuffix := suffix_of_not_mem hform.symm hbracket
  exact fun c hc => hafter c (hsuffix.subset (by simp [hc]))

/-- What lies between two characters of names is in the name too. -/
theorem isPart_between_of_spaced (htype : type.IsWritable) {between : List Char}
    {first second : Char} (hs : Spaced type.tokens (front ++ first :: (between ++ second :: back)))
    (hfirst : Name.isPart first = true) (hsecond : Name.isPart second = true) :
    ∀ c ∈ between, Name.isPart c = true := by
  obtain ⟨before, after, hform, hbefore, hafter⟩ := exists_name_of_spaced hs
  have hahead : first ∉ before := by
    intro hmem
    obtain ⟨hblank, -, hopen, -⟩ := Name.isPart_spec hfirst
    simpa [hblank, hopen] using hbefore first hmem
  have hbehind : second ∉ after := by
    intro hmem
    obtain ⟨hblank, hmark, -, hclose, -⟩ := Name.isPart_spec hsecond
    simpa [hblank, hmark, hclose] using hafter second hmem
  obtain ⟨start, hstart⟩ := suffix_of_not_mem hform.symm hahead
  rw [← List.cons_append, ← List.append_assoc] at hstart
  have hinside := prefix_of_not_mem hstart hbehind
  exact fun c hc => Name.isPart_of_mem htype.baseName c (hinside.subset (by simp [hc]))

/-- Between two brackets there is the name. -/
theorem exists_between_of_spaced (htype : type.IsWritable) {between : List Char}
    (hs : Spaced type.tokens (front ++ '[' :: (between ++ ']' :: back))) :
    ∃ c ∈ between, isBlank c = false := by
  obtain ⟨first, rest, hchars, -⟩ := Executable.Token.exists_of_isValid htype.baseName
  have hfirst : first ∈ type.baseName.toList := by
    rw [hchars]
    exact List.mem_cons_self
  obtain ⟨hblank, hmark, hopen, hclose, -⟩ :=
    Name.isPart_spec (Name.isPart_of_mem htype.baseName first hfirst)
  have hbehind : ∀ c ∈ back, isBlank c = true ∨ c = ']' ∨ c = '!' := by
    have hform : Spaced type.tokens ((front ++ '[' :: between) ++ ']' :: back) := by
      simpa using hs
    exact blank_or_closing_of_spaced htype hform
  have hahead := blank_or_opening_of_spaced htype hs
  obtain ⟨before, after, hform, -, -⟩ := exists_name_of_spaced hs
  have hmem : first ∈ front ++ '[' :: (between ++ ']' :: back) := by
    rw [hform]
    simp [hfirst]
  simp only [List.mem_append, List.mem_cons, hopen, hclose, false_or] at hmem
  rcases hmem with hmem | hmem | hmem
  · simpa [hblank, hopen] using hahead first hmem
  · exact ⟨first, hmem, hblank⟩
  · simpa [hblank, hmark, hclose] using hbehind first hmem

end

/-- A malformed text spells no type. -/
theorem not_malformed_of_spaced {type : TypeRef} (htype : type.IsWritable) {s : List Char}
    (hs : Spaced type.tokens s) : ¬ Malformed s := by
  have hvisible : visible s = type.text.toList := by
    rw [hs.visible_eq (isBlank_of_mem_tokens htype), flatMap_tokens]
  intro hmalformed
  cases hmalformed with
  | unbalanced hcount =>
      refine hcount ?_
      have hopen : s.count '[' = (visible s).count '[' := (List.count_filter (by decide)).symm
      have hclose : s.count ']' = (visible s).count ']' := (List.count_filter (by decide)).symm
      rw [hopen, hclose, hvisible, count_brackets htype]
  | @lateOpening before c hc hshown hother after =>
      have hcases := blank_or_opening_of_spaced htype hs c hc
      simp [hshown, hother] at hcases
  | @earlyClosing before after c hc hshown hother =>
      have hcases := blank_or_closing_of_spaced htype hs c hc
      simp [hshown, hother] at hcases
  | @doubledMark before blanks hblanks after =>
      have hmarks : visible (before ++ '!' :: (blanks ++ '!' :: after)) =
          visible before ++ '!' :: '!' :: visible after := by
        rw [visible_append, ← List.singleton_append, visible_append, visible_append,
          hblanks.visible_eq, ← List.singleton_append (l := after), visible_append]
        rfl
      have hchain := isChain_marks htype
      rw [← hvisible, hmarks, List.isChain_append_cons_cons] at hchain
      exact hchain.2.1 ⟨rfl, rfl⟩
  | @emptyBrackets before blanks hblanks after =>
      obtain ⟨c, hc, hshown⟩ := exists_between_of_spaced htype hs
      rw [hblanks c hc] at hshown
      cases hshown
  | @brokenName before blanks first second hfirst hblanks hsome hsecond after =>
      obtain ⟨c, rest, rfl⟩ := List.exists_cons_of_ne_nil hsome
      have hpart := isPart_between_of_spaced htype hs hfirst hsecond c List.mem_cons_self
      have hblank := (Name.isPart_spec hpart).1
      rw [hblanks c List.mem_cons_self] at hblank
      cases hblank

/-! ### The grammar -/

/-- A text is read as a type exactly if the grammar can write the type and the text consists of its
tokens, with blanks around them.  So a type that can be written is read back from its text, no text
spells two types, and a malformed text is refused. -/
theorem read_eq_ok_iff_spaced :
    (∀ (text : String) (type : TypeRef), read text = .ok type ↔
        type.IsWritable ∧ Spaced type.tokens text.toList) ∧
      (∀ type : TypeRef, type.tokens.flatMap String.toList = type.text.toList ∧
        (type.IsWritable → read type.text = .ok type)) ∧
      (∀ (first second : TypeRef) (s : List Char), first.IsWritable → second.IsWritable →
        Spaced first.tokens s → Spaced second.tokens s → first = second) ∧
      ∀ text : String, Malformed text.toList → ∃ error, read text = .error error := by
  refine ⟨fun text type => ?_, fun type => ?_, ?_, fun text hmalformed => ?_⟩
  · constructor
    · exact fun hread => ⟨isWritable_of_read hread, spaced_of_ofChars hread⟩
    · exact fun ⟨htype, hspaced⟩ => ofChars_of_spaced htype hspaced
  · exact ⟨flatMap_tokens type, read_text⟩
  · intro first second s hfirst hsecond hspaced hspaced'
    have hread := ofChars_of_spaced hfirst hspaced
    rw [ofChars_of_spaced hsecond hspaced'] at hread
    exact (Except.ok.inj hread).symm
  · cases hread : read text with
    | error error => exact ⟨error, rfl⟩
    | ok type =>
        have hspaced := spaced_of_ofChars hread
        exact absurd hmalformed (not_malformed_of_spaced (isWritable_of_read hread) hspaced)

/-- A list of lists of which each item must be there. -/
def gridType : TypeRef :=
  .list (.nonNull (.list (.nonNull (.named "Int"))))

/-- A text of this type with blanks of several sorts. -/
def gridText : String :=
  " [[ Int\t!]\u00a0! ]"

theorem gridText_spaced : gridType.IsWritable ∧ Spaced gridType.tokens gridText.toList := by
  have hspace : IsBlankRun [' '] := isBlankRun_singleton rfl
  have htab : IsBlankRun ['\t'] := isBlankRun_singleton rfl
  have hwide : IsBlankRun ['\u00a0'] := isBlankRun_singleton rfl
  have hnone := isBlankRun_nil
  refine ⟨⟨rfl, by decide⟩, ?_⟩
  exact .cons hspace (.cons hnone (.cons hspace (.cons htab (.cons hnone (.cons hwide (.cons hspace
    (.nil hnone)))))))

theorem gridText_read :
    (gridType.IsWritable ∧ Spaced gridType.tokens gridText.toList) ∧
      read gridText = .ok gridType ∧ read "[[Int!]!]" = .ok gridType ∧
      (∀ other : TypeRef, other.IsWritable → Spaced other.tokens gridText.toList →
        other = gridType) ∧
      Malformed "[Int! !]".toList ∧ ∃ error, read "[Int! !]" = .error error := by
  obtain ⟨hread, htext, hunique, hrefused⟩ := read_eq_ok_iff_spaced
  obtain ⟨hgrid, hspaced⟩ := gridText_spaced
  have hspace : IsBlankRun [' '] := isBlankRun_singleton rfl
  have hmalformed : Malformed "[Int! !]".toList := .doubledMark "[Int".toList hspace [']']
  exact ⟨⟨hgrid, hspaced⟩, (hread _ _).mpr ⟨hgrid, hspaced⟩, (htext gridType).2 hgrid,
    fun other hother hspaced' => hunique _ _ _ hother hgrid hspaced' hspaced, hmalformed,
    hrefused _ hmalformed⟩

end TypeRef

end SelectionCompiler
