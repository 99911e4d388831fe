import SelectionCompiler.Name
import SelectionCompiler.Text.Blank
import SelectionCompiler.TypeRef

/-!
# Reading type references

The reader peels a reference from both ends.  At each level it drops the blanks around the text;
then a closing exclamation mark makes the rest a non-null type, brackets at both ends make the
inside a list, and anything else must be a name.  A failure names the text of the level at which
it was found.
-/

namespace SelectionCompiler

/-- Why a text is no type reference. -/
inductive TypeRefError where
  /-- Nothing but blanks stands where a type is needed. -/
  | empty
  /-- A bracket at one end has no partner at the other. -/
  | mismatchedBrackets (text : String)
  /-- What should be a name is none, or a non-null marker follows another one. -/
  | invalidName (text : String)
deriving DecidableEq

namespace TypeRefError

/-- The text that tells why a text is no type. -/
def message : TypeRefError → String
  | .empty => "type reference cannot be empty"
  | .mismatchedBrackets text => "mismatched brackets in list type '" ++ text ++ "'"
  | .invalidName text => "invalid named type '" ++ text ++ "'"

end TypeRefError

namespace TypeRef

/-- The text before a closing character, if the text ends in that character. -/
def beforeLast? (c : Char) (s : List Char) : Option (List Char) :=
  if s.getLast? = some c then some s.dropLast else none

theorem length_lt_of_beforeLast? {c : Char} {s inside : List Char}
    (h : beforeLast? c s = some inside) : inside.length < s.length := by
  simp only [beforeLast?] at h
  split at h
  · rename_i hlast
    have hne : s ≠ [] := by rintro rfl; simp at hlast
    have hpos := List.length_pos_iff.mpr hne
    cases h
    simp only [List.length_dropLast]
    omega
  · cases h

/-- The type that characters denote.  An exclamation mark at the end is taken off first, then
brackets are; what is left has to be a name. -/
def ofChars (chars : List Char) : Except TypeRefError TypeRef :=
  match _hs : Text.trim chars with
  | [] => .error .empty
  | first :: rest =>
      match _hlast : beforeLast? '!' (first :: rest) with
      | some inside =>
          match ofChars inside with
          | .error error => .error error
          | .ok type =>
              if type.isNonNull then .error (.invalidName (String.ofList (first :: rest)))
              else .ok (.nonNull type)
      | none =>
          if first = '[' then
            match _hclose : beforeLast? ']' rest with
            | some inside =>
                match ofChars inside with
                | .error error => .error error
                | .ok type => .ok (.list type)
            | none => .error (.mismatchedBrackets (String.ofList (first :: rest)))
          else if (first :: rest).getLast? = some ']' then
            .error (.mismatchedBrackets (String.ofList (first :: rest)))
          else if Name.isNameChars (first :: rest) then
            .ok (.named (String.ofList (first :: rest)))
          else .error (.invalidName (String.ofList (first :: rest)))
termination_by chars.length
decreasing_by
  · have htrim := Text.length_trim_le chars
    have hlt := length_lt_of_beforeLast? _hlast
    rw [_hs] at htrim
    omega
  · have htrim := Text.length_trim_le chars
    have hlt := length_lt_of_beforeLast? _hclose
    rw [_hs] at htrim
    simp only [List.length_cons] at htrim
    omega

/-- The type that a text denotes. -/
def read (text : String) : Except TypeRefError TypeRef :=
  ofChars text.toList

end TypeRef

end SelectionCompiler
