import SelectionCompiler.Executable.Reader

/-!
# Where tokens begin and end

A reader looks at the next token only, and which sort of token comes next is decided by its first
character.  So two facts are enough to follow a reader through a text: how a token is cut off in
front of what stands behind it, and that a punctuator is not there when the next token starts with
another character.
-/

namespace SelectionCompiler.Executable

namespace Token

/-- A character that is neither skipped nor the start of a comment. -/
def isVisible (c : Char) : Bool :=
  !isIgnored c && c != '#'

/-- The first character of the next token. -/
def ahead? (s : List Char) : Option Char :=
  (skipIgnored false s).head?

variable {c : Char} {dialect : Dialect}

theorem skipIgnored_of_isIgnored (hc : isIgnored c = true) (s : List Char) :
    skipIgnored false (c :: s) = skipIgnored false s := by
  simp [skipIgnored, hc]

theorem skipIgnored_of_isVisible (hc : isVisible c = true) (s : List Char) :
    skipIgnored false (c :: s) = c :: s := by
  simp only [isVisible, Bool.and_eq_true, Bool.not_eq_true', bne_iff_ne] at hc
  simp [skipIgnored, hc.1, hc.2]

theorem ahead?_of_isVisible (hc : isVisible c = true) (s : List Char) :
    ahead? (c :: s) = some c := by
  unfold ahead?
  rw [skipIgnored_of_isVisible hc]
  rfl

theorem next?_of_isIgnored (hc : isIgnored c = true) (s : List Char) :
    next? dialect (c :: s) = next? dialect s := by
  unfold next?
  rw [skipIgnored_of_isIgnored hc]

/-! ### Punctuators -/

theorem isVisible_of_isPunctuator (hc : isPunctuator c = true) : isVisible c = true := by
  have hall : ['\x7b', '\x7d', '(', ')', '[', ']', ':', '=', '!', '|', '&', '@', '$'].all
      isVisible = true := by decide
  exact List.all_eq_true.mp hall c (of_decide_eq_true hc)

theorem next?_punctuator (hc : isPunctuator c = true) (s : List Char) :
    next? dialect (c :: s) = some (.punctuator c, s) := by
  unfold next?
  rw [skipIgnored_of_isVisible (isVisible_of_isPunctuator hc)]
  simp [hc]

theorem ofNumber?_ne_punctuator (s : List Char) : ofNumber? dialect s ≠ some (.punctuator c) := by
  intro hnumber
  unfold ofNumber? at hnumber
  split at hnumber
  all_goals
    dsimp only at hnumber
    split at hnumber
    · cases hnumber
    split at hnumber
    all_goals split at hnumber <;> simp at hnumber

theorem ofQuoted?_ne_punctuator (s rest : List Char) :
    ofQuoted? dialect s ≠ some (.punctuator c, rest) := by
  unfold ofQuoted?
  intro hquoted
  split at hquoted
  · obtain ⟨⟨text, behind⟩, _, hfound⟩ := Option.bind_eq_some_iff.mp hquoted
    dsimp only at hfound
    split at hfound
    · cases hfound
    · cases hfound
  · obtain ⟨found, _, hfound⟩ := Option.bind_eq_some_iff.mp hquoted
    cases hfound

/-- A punctuator is the first character of its token. -/
theorem ahead?_of_next?_punctuator {s rest : List Char}
    (hnext : next? dialect s = some (.punctuator c, rest)) : ahead? s = some c := by
  unfold next? at hnext
  unfold ahead?
  cases hskip : skipIgnored false s with
  | nil => simp [hskip] at hnext
  | cons first behind =>
      rw [hskip] at hnext
      simp only at hnext
      split at hnext
      · cases hnext
        rfl
      split at hnext
      · split at hnext <;> cases hnext
      split at hnext
      · cases hnext
      split at hnext
      · obtain ⟨token, htoken, hfound⟩ := Option.bind_eq_some_iff.mp hnext
        cases hfound
        exact absurd htoken (ofNumber?_ne_punctuator _)
      split at hnext
      · exact absurd hnext (ofQuoted?_ne_punctuator _ _)
      · cases hnext

theorem next?_spread (s : List Char) :
    next? dialect ('.' :: '.' :: '.' :: s) = some (.spread, s) := by
  unfold next?
  rw [skipIgnored_of_isVisible (by decide)]
  rfl

/-- A token of many characters is cut off in front of the first one that does not belong to it. -/
theorem cut_append {belongs : Char → Bool} {token s : List Char}
    (htoken : ∀ c ∈ token, belongs c = true) (hs : ∀ c ∈ s.head?, belongs c = false) :
    (token ++ s).takeWhile belongs = token ∧ (token ++ s).dropWhile belongs = s := by
  rw [List.takeWhile_append_of_pos htoken, List.dropWhile_append_of_pos htoken]
  cases s with
  | nil => simp
  | cons c s => simp [hs c rfl]

/-! ### Names -/

theorem isVisible_of_isStart (hc : Name.isStart c = true) : isVisible c = true := by
  have hall : ([' ', ',', '\t', '\n', '\r', '\uFEFF'].all fun i => !Name.isStart i) = true := by
    decide
  simp only [isVisible, Bool.and_eq_true, Bool.not_eq_true', bne_iff_ne]
  refine ⟨decide_eq_false fun hmem => ?_, ?_⟩
  · have hnot := List.all_eq_true.mp hall c hmem
    rw [hc] at hnot
    cases hnot
  · rintro rfl
    cases hc

theorem isPunctuator_of_isStart (hc : Name.isStart c = true) : isPunctuator c = false := by
  have hall : (['\x7b', '\x7d', '(', ')', '[', ']', ':', '=', '!', '|', '&', '@', '$'].all
      fun p => !Name.isStart p) = true := by decide
  refine decide_eq_false fun hmem => ?_
  have hnot := List.all_eq_true.mp hall c hmem
  rw [hc] at hnot
  cases hnot

/-- A name does not go on behind this point. -/
def endsName (s : List Char) : Prop :=
  ∀ c ∈ s.head?, Name.isPart c = false

/-- A name is a letter or an underscore in front of characters that a name may have. -/
theorem exists_of_isValid {name : String} (hname : Name.isValid name = true) :
    ∃ first rest, name.toList = first :: rest ∧ Name.isStart first = true ∧
      ∀ c ∈ rest, Name.isPart c = true := by
  unfold Name.isValid at hname
  cases hchars : name.toList with
  | nil => rw [hchars] at hname; cases hname
  | cons first rest =>
      rw [hchars] at hname
      obtain ⟨hfirst, hrest⟩ := Bool.and_eq_true_iff.mp hname
      exact ⟨first, rest, rfl, hfirst, List.all_eq_true.mp hrest⟩

theorem next?_name {name : String} (hname : Name.isValid name = true) {s : List Char}
    (hs : endsName s) : next? dialect (name.toList ++ s) = some (.name name, s) := by
  obtain ⟨first, rest, hchars, hfirst, hrest⟩ := exists_of_isValid hname
  obtain ⟨htake, hdrop⟩ := cut_append hrest hs
  have hdot : first ≠ '.' := by rintro rfl; cases hfirst
  unfold next?
  rw [hchars, List.cons_append, skipIgnored_of_isVisible (isVisible_of_isStart hfirst)]
  simp only [isPunctuator_of_isStart hfirst, Bool.false_eq_true, if_false, hdot, hfirst, if_true,
    htake, hdrop]
  rw [← hchars, String.ofList_toList]

end Token

/-! ### Taking tokens -/

open Token

variable {c : Char} {dialect : Dialect}

theorem takePunctuator_of_isIgnored (hc : isIgnored c = true) (p : Char) (s : List Char) :
    takePunctuator dialect p (c :: s) = takePunctuator dialect p s := by
  unfold takePunctuator
  rw [next?_of_isIgnored hc]

theorem takeName_of_isIgnored (hc : isIgnored c = true) (s : List Char) :
    takeName dialect (c :: s) = takeName dialect s := by
  unfold takeName
  rw [next?_of_isIgnored hc]

theorem takePunctuator_cons (hc : isPunctuator c = true) (s : List Char) :
    takePunctuator dialect c (c :: s) = some s := by
  unfold takePunctuator
  rw [next?_punctuator hc]
  simp

/-- A punctuator cannot be taken if the next token starts with another character. -/
theorem takePunctuator_eq_none {s : List Char} (hs : ahead? s ≠ some c) :
    takePunctuator dialect c s = none := by
  unfold takePunctuator
  split
  · rename_i found rest hnext
    have hfound : found ≠ c := by
      rintro rfl
      exact hs (ahead?_of_next?_punctuator hnext)
    rw [if_neg hfound]
  · rfl

theorem takePunctuator_cons_of_ne {p : Char} (hp : isVisible p = true) (hc : p ≠ c)
    (s : List Char) : takePunctuator dialect c (p :: s) = none := by
  refine takePunctuator_eq_none ?_
  rw [ahead?_of_isVisible hp]
  exact fun h => hc (Option.some.inj h)

theorem next?_of_takePunctuator {s rest : List Char}
    (htake : takePunctuator dialect c s = some rest) :
    next? dialect s = some (.punctuator c, rest) := by
  unfold takePunctuator at htake
  split at htake
  · rename_i found behind hnext
    split at htake
    · rename_i hfound
      rw [hnext, hfound, Option.some.inj htake]
    · cases htake
  · cases htake

theorem takeName_name {name : String} (hname : Name.isValid name = true) {s : List Char}
    (hs : endsName s) : takeName dialect (name.toList ++ s) = some (name, s) := by
  unfold takeName
  rw [next?_name hname hs]

theorem takePunctuator_name {name : String} (hname : Name.isValid name = true) {s : List Char}
    (hs : endsName s) : takePunctuator dialect c (name.toList ++ s) = none := by
  unfold takePunctuator
  rw [next?_name hname hs]

end SelectionCompiler.Executable
