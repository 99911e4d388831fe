import Mathlib.Data.List.TakeWhile
import SelectionCompiler.Text.Blank

/-!
# Rows of tokens

A text may show its tokens with blanks in front of each of them and behind the last one.  Blanks at
its ends can be taken away, and the last token can be looked at as well as the first one.  Without
its blanks the text is nothing but its tokens.
-/

namespace SelectionCompiler

/-! ### Blanks around texts -/

namespace Text

/-- A run of blanks, which may be empty. -/
def IsBlankRun (s : List Char) : Prop :=
  ∀ c ∈ s, isBlank c = true

/-- The tokens one after the other, with blanks in front of each and behind the last one. -/
inductive Spaced : List String → List Char → Prop where
  | nil {blanks : List Char} (hblanks : IsBlankRun blanks) : Spaced [] blanks
  | cons {blanks rest : List Char} {token : String} {tokens : List String}
      (hblanks : IsBlankRun blanks) (hrest : Spaced tokens rest) :
      Spaced (token :: tokens) (blanks ++ (token.toList ++ rest))

/-- The characters that are no blanks. -/
def visible (s : List Char) : List Char :=
  s.filter fun c => !isBlank c

theorem isBlankRun_nil : IsBlankRun [] := by
  intro c hc
  cases hc

theorem isBlankRun_singleton {c : Char} (hc : isBlank c = true) : IsBlankRun [c] := by
  intro other hother
  rw [List.mem_singleton.mp hother]
  exact hc

theorem IsBlankRun.append {first second : List Char} (hfirst : IsBlankRun first)
    (hsecond : IsBlankRun second) : IsBlankRun (first ++ second) := by
  intro c hc
  rcases List.mem_append.mp hc with hc | hc
  · exact hfirst c hc
  · exact hsecond c hc

theorem isBlankRun_takeWhile (s : List Char) : IsBlankRun (s.takeWhile isBlank) :=
  fun _ hc => List.mem_takeWhile_imp hc

theorem IsBlankRun.visible_eq {s : List Char} (hs : IsBlankRun s) : visible s = [] :=
  List.filter_eq_nil_iff.mpr fun c hc => by simp [hs c hc]

theorem visible_append (first second : List Char) :
    visible (first ++ second) = visible first ++ visible second :=
  List.filter_append first second

theorem trimStart_append {front : List Char} (hfront : IsBlankRun front) (s : List Char) :
    trimStart (front ++ s) = trimStart s :=
  List.dropWhile_append_of_pos hfront

theorem trimEnd_append {back : List Char} (hback : IsBlankRun back) (s : List Char) :
    trimEnd (s ++ back) = trimEnd s := by
  have hreverse : IsBlankRun back.reverse := fun c hc => hback c (List.mem_reverse.mp hc)
  rw [trimEnd, List.reverse_append, List.dropWhile_append_of_pos hreverse, trimEnd]

/-- Blanks around a text are not there for the reader. -/
theorem trim_surrounded {front back : List Char} (hfront : IsBlankRun front)
    (hback : IsBlankRun back) (s : List Char) : trim (front ++ (s ++ back)) = trim s := by
  rw [trim, trimStart_append hfront]
  by_cases hs : IsBlankRun s
  · rw [trimStart_append hs, trim, trimStart, trimStart, List.dropWhile_eq_nil_iff.mpr hback,
      List.dropWhile_eq_nil_iff.mpr hs]
  · have hnonempty : (s.dropWhile isBlank).isEmpty = false := by
      rw [Bool.eq_false_iff]
      intro hempty
      exact hs (List.dropWhile_eq_nil_iff.mp (List.isEmpty_iff.mp hempty))
    rw [trimStart, List.dropWhile_append, hnonempty, if_neg Bool.false_ne_true]
    exact trimEnd_append hback _

/-- A text is its trimmed part with blanks around it. -/
theorem exists_trim (s : List Char) :
    ∃ front back, s = front ++ (trim s ++ back) ∧ IsBlankRun front ∧ IsBlankRun back := by
  refine ⟨s.takeWhile isBlank, ((trimStart s).reverse.takeWhile isBlank).reverse, ?_,
    isBlankRun_takeWhile s, ?_⟩
  · rw [trim, trimEnd, ← List.reverse_append, List.takeWhile_append_dropWhile, List.reverse_reverse,
      trimStart, List.takeWhile_append_dropWhile]
  · intro c hc
    exact isBlankRun_takeWhile _ c (List.mem_reverse.mp hc)

/-! ### Rows of tokens -/

theorem Spaced.blanks_append {tokens : List String} {front s : List Char}
    (hfront : IsBlankRun front) (hs : Spaced tokens s) : Spaced tokens (front ++ s) := by
  cases hs with
  | nil hblanks => exact .nil (hfront.append hblanks)
  | cons hblanks hrest =>
      rw [← List.append_assoc]
      exact .cons (hfront.append hblanks) hrest

theorem spaced_cons_iff {token : String} {tokens : List String} {s : List Char} :
    Spaced (token :: tokens) s ↔
      ∃ front rest, s = front ++ (token.toList ++ rest) ∧ IsBlankRun front ∧
        Spaced tokens rest := by
  constructor
  · intro hs
    cases hs with
    | cons hblanks hrest => exact ⟨_, _, rfl, hblanks, hrest⟩
  · rintro ⟨front, rest, rfl, hfront, hrest⟩
    exact .cons hfront hrest

/-- The last token stands behind the others, with blanks behind it. -/
theorem spaced_append_singleton_iff {token : String} {tokens : List String} {s : List Char} :
    Spaced (tokens ++ [token]) s ↔
      ∃ inner back, s = inner ++ (token.toList ++ back) ∧ Spaced tokens inner ∧
        IsBlankRun back := by
  induction tokens generalizing s with
  | nil =>
      rw [List.nil_append, spaced_cons_iff]
      constructor
      · rintro ⟨front, rest, rfl, hfront, hrest⟩
        cases hrest with
        | nil hblanks => exact ⟨front, rest, rfl, .nil hfront, hblanks⟩
      · rintro ⟨inner, back, rfl, hinner, hback⟩
        cases hinner with
        | nil hblanks => exact ⟨inner, back, rfl, hblanks, .nil hback⟩
  | cons first rest ih =>
      rw [List.cons_append, spaced_cons_iff]
      constructor
      · rintro ⟨front, behind, rfl, hfront, hbehind⟩
        obtain ⟨inner, back, rfl, hinner, hback⟩ := ih.mp hbehind
        exact ⟨front ++ (first.toList ++ inner), back, by simp, .cons hfront hinner, hback⟩
      · rintro ⟨inner, back, rfl, hinner, hback⟩
        obtain ⟨front, behind, rfl, hfront, hbehind⟩ := spaced_cons_iff.mp hinner
        exact ⟨front, behind ++ (token.toList ++ back), by simp, hfront,
          ih.mpr ⟨behind, back, rfl, hbehind, hback⟩⟩

/-- The blanks in front of the first token can be taken away. -/
theorem Spaced.trimStart {tokens : List String} {s : List Char} (hs : Spaced tokens s)
    (htokens : ∀ token ∈ tokens, ∀ c ∈ token.toList, isBlank c = false) :
    Spaced tokens (trimStart s) := by
  induction hs with
  | nil hblanks =>
      rw [Text.trimStart, List.dropWhile_eq_nil_iff.mpr hblanks]
      exact .nil isBlankRun_nil
  | @cons blanks rest token tokens hblanks hrest ih =>
      obtain ⟨htoken, hothers⟩ := List.forall_mem_cons.mp htokens
      rw [trimStart_append hblanks]
      cases hchars : token.toList with
      | nil =>
          have hempty : Spaced (token :: tokens) ([] ++ (token.toList ++ Text.trimStart rest)) :=
            .cons isBlankRun_nil (ih hothers)
          simpa [hchars] using hempty
      | cons c others =>
          have hc : isBlank c = false := htoken c (by rw [hchars]; exact List.mem_cons_self)
          have hkept : Text.trimStart ((c :: others) ++ rest) = token.toList ++ rest := by
            rw [hchars]
            exact List.dropWhile_cons_of_neg (by simp [hc])
          rw [hkept]
          exact .cons isBlankRun_nil hrest

/-- Without its blanks a text is its tokens one after the other. -/
theorem Spaced.visible_eq {tokens : List String} {s : List Char} (hs : Spaced tokens s)
    (htokens : ∀ token ∈ tokens, ∀ c ∈ token.toList, isBlank c = false) :
    visible s = tokens.flatMap String.toList := by
  induction hs with
  | nil hblanks => exact hblanks.visible_eq
  | @cons blanks rest token tokens hblanks hrest ih =>
      obtain ⟨htoken, hothers⟩ := List.forall_mem_cons.mp htokens
      have hkept : visible token.toList = token.toList :=
        List.filter_eq_self.mpr fun c hc => by simp [htoken c hc]
      rw [visible_append, visible_append, hblanks.visible_eq, hkept, ih hothers, List.nil_append,
        List.flatMap_cons]

end Text

end SelectionCompiler
