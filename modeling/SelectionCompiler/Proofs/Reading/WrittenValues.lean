import SelectionCompiler.Proofs.Reading.Values
import SelectionCompiler.Proofs.Walk

/-!
# Written values can be told apart

What is written for a value goes on to its own last character and no further.  Whoever reads one
value from the front of a text that starts with it stops exactly there, if the text ends or goes on
as it does behind an argument, an item or an entry.  Nothing that a string holds changes this, nor
does it matter whether the string was quoted or taken for an enum value.

The value that is read is the normal form of the one that was written.  So a written text leaves
open only what the normal form leaves open: which enum values were given as strings, and which
variables are always required.
-/

namespace SelectionCompiler

namespace Executable

/-- Takes one value from the front of a text and hands back what stands behind it. -/
def takeValue? (s : List Char) : Option (Value × List Char) :=
  readValue .standard false (budgetFor s) s

end Executable

namespace Compile

open Executable

variable {schema : Schema} {type : Option TypeRef} {path : String} {value : Value}
  {session next : Session} {text : String}

/-- A value that could be written has no violations, and its text is that of its normal form. -/
theorem written_eq_text
    (hwritten : (valueText schema type path value).runFrom session = (.ok text, next)) :
    Finding.errors (value.findings schema type path) = [] ∧
      text = (value.normal schema type).text := by
  obtain ⟨last, -, hrun⟩ := performs_valueText schema type path value session
  rw [hwritten] at hrun
  have houtcome : Finding.outcome (value.findings schema type path)
      (value.normal schema type).text = .ok text := (Prod.mk.inj hrun).1.symm
  exact Finding.outcome_eq_ok_iff.mp houtcome

/-- The value is taken from the front of its text, whatever ends it. -/
theorem takeValue?_written (hregular : value.isRegular = true)
    (hwritten : (valueText schema type path value).runFrom session = (.ok text, next))
    {rest : List Char} (hrest : endsValue rest) :
    takeValue? (text.toList ++ rest) = some (value.normal schema type, rest) := by
  obtain ⟨hok, rfl⟩ := written_eq_text hwritten
  have hbudget : 3 * (value.normal schema type).text.toList.length + 1 ≤
      budgetFor ((value.normal schema type).text.toList ++ rest) := by
    unfold budgetFor
    rw [List.length_append]
    omega
  exact value.readValue_text hregular hok _ hbudget hrest

/-- A value without floats whose keys are names is taken back from its text, up to whatever may
stand behind a value.  Two such values at places of one type have the same text exactly if they
differ only in what a text cannot show. -/
theorem written_value_reads_back (hregular : value.isRegular = true)
    (hwritten : (valueText schema type path value).runFrom session = (.ok text, next)) :
    (∀ rest, endsValue rest →
        takeValue? (text.toList ++ rest) = some (value.normal schema type, rest)) ∧
      ∀ (other : Value) (otherPath otherText : String) (otherSession otherNext : Session),
        other.isRegular = true →
        (valueText schema type otherPath other).runFrom otherSession = (.ok otherText, otherNext) →
        (otherText = text ↔ other.normal schema type = value.normal schema type) := by
  refine ⟨fun rest hrest => takeValue?_written hregular hwritten hrest, ?_⟩
  intro other otherPath otherText otherSession otherNext hother hwritten'
  constructor
  · rintro rfl
    -- Both values are taken from the front of the one text.
    have hvalue := takeValue?_written hregular hwritten endsValue_nil
    have hreads := takeValue?_written hother hwritten' endsValue_nil
    rw [hvalue] at hreads
    exact (Prod.mk.inj (Option.some.inj hreads)).1.symm
  · intro hnormal
    calc otherText
        = (other.normal schema type).text := (written_eq_text hwritten').2
      _ = (value.normal schema type).text := by rw [hnormal]
      _ = text := (written_eq_text hwritten).2.symm

/-- A schema with an enum and an input type. -/
def cardSchema : Schema :=
  (Schema.empty.withEnum "Suit").withInputType "Card"
    [("suit", "Suit!"), ("names", "[[String]]"), ("rank", "Int")]

/-- A type that holds the same values as its name alone. -/
def cardType : Option TypeRef :=
  some (.nonNull (.nonNull (.named "Card")))

/-- A card with the smallest rank and with strings that look like syntax.  Its suit is given as the
string or as the enum value. -/
def cardValue (suit : Value) (alwaysRequired : Bool) : Value :=
  .object [("suit", suit),
    ("names",
      .list [.string "", .list [.string "\"],$v,\\\n\x00"], .variable ⟨"v", alwaysRequired⟩]),
    ("rank", .int (-9223372036854775808))]

/-- What is written for the card either way. -/
def cardText : String :=
  "\x7bsuit:HEARTS,names:[\"\",[\"\\\"],$v,\\\\\\n\\u0000\"],$v],rank:-9223372036854775808\x7d"

theorem cardText_reads_back :
    (cardValue (.string "HEARTS") true).isRegular = true ∧
      (valueText cardSchema cardType "in" (cardValue (.string "HEARTS") true)).runFrom .start =
        (.ok cardText, Session.start.use ⟨"v", .list (.named "String"), true⟩) ∧
      takeValue? (cardText.toList ++ [']', ')']) =
        some (cardValue (.enum "HEARTS") false, [']', ')']) ∧
      (cardValue (.enum "HEARTS") false).normal cardSchema cardType =
        (cardValue (.string "HEARTS") true).normal cardSchema cardType := by
  have hregular : (cardValue (.string "HEARTS") true).isRegular = true := by
    decide
  have hother : (cardValue (.enum "HEARTS") false).isRegular = true := by
    decide
  have hwritten :
      (valueText cardSchema cardType "in" (cardValue (.string "HEARTS") true)).runFrom .start =
        (.ok cardText, Session.start.use ⟨"v", .list (.named "String"), true⟩) := by
    decide +kernel
  have hwritten' :
      (valueText cardSchema cardType "at" (cardValue (.enum "HEARTS") false)).runFrom .start =
        (.ok cardText, Session.start.use ⟨"v", .list (.named "String"), false⟩) := by
    decide +kernel
  have hnormal : (cardValue (.string "HEARTS") true).normal cardSchema cardType =
      cardValue (.enum "HEARTS") false := by
    with_unfolding_all rfl
  obtain ⟨hreads, hsame⟩ := written_value_reads_back hregular hwritten
  have hends : endsValue [']', ')'] := endsValue_cons (by decide) _
  refine ⟨hregular, hwritten, ?_, (hsame _ _ _ _ _ hother hwritten').mp rfl⟩
  rw [hreads _ hends, hnormal]

end Compile

end SelectionCompiler
