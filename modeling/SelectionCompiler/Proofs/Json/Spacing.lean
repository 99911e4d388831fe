import SelectionCompiler.Proofs.Json.Leaves

/-!
# The two layouts of JSON texts

A compact and an indented text differ in their blanks only: in what stands in front of an item, an
entry and a closing bracket, and behind the colon of an entry.  A `Spacing` says what these blanks
are, and `written` is the text of a value with the blanks of a spacing.  Both layouts are instances
of it.
-/

namespace SelectionCompiler.Json

/-- The blanks of a layout. -/
structure Spacing where
  /-- In front of an item, an entry or a closing bracket at a level. -/
  line : Nat → List Char
  /-- Behind the colon of an entry. -/
  colon : List Char
  isSpace_line : ∀ level, ∀ c ∈ line level, isSpace c = true
  isSpace_colon : ∀ c ∈ colon, isSpace c = true

namespace Spacing

/-- No blanks at all. -/
def compact : Spacing where
  line := fun _ => []
  colon := []
  isSpace_line := by simp
  isSpace_colon := by simp

/-- A line for each item and each entry, and a blank behind each colon. -/
def pretty : Spacing where
  line := fun level => '\n' :: (indentation level).toList
  colon := [' ']
  isSpace_line := by
    intro level c hc
    rcases List.mem_cons.mp hc with rfl | hblank
    · rfl
    · rw [indentation, String.toList_ofList] at hblank
      rw [List.eq_of_mem_replicate hblank]
      rfl
  isSpace_colon := by
    intro c hc
    rw [List.mem_singleton.mp hc]
    rfl

end Spacing

variable (spacing : Spacing)

mutual
/-- The characters of a value that stands at a level. -/
def written (level : Nat) : Json → List Char
  | .array [] => ['[', ']']
  | .array (item :: rest) =>
      '[' :: (spacing.line (level + 1) ++ (written (level + 1) item ++ moreItems level rest))
  | .object [] => ['\x7b', '\x7d']
  | .object ((key, value) :: rest) =>
      '\x7b' :: (spacing.line (level + 1) ++ ((Text.quoted key).toList ++
        ':' :: (spacing.colon ++ (written (level + 1) value ++ moreEntries level rest))))
  | leaf => leaf.leafText.toList

/-- What stands behind an item: the other items and the bracket. -/
def moreItems (level : Nat) : List Json → List Char
  | [] => spacing.line level ++ [']']
  | item :: rest =>
      ',' :: (spacing.line (level + 1) ++ (written (level + 1) item ++ moreItems level rest))

/-- What stands behind an entry: the other entries and the brace. -/
def moreEntries (level : Nat) : List (String × Json) → List Char
  | [] => spacing.line level ++ ['\x7d']
  | (key, value) :: rest =>
      ',' :: (spacing.line (level + 1) ++ ((Text.quoted key).toList ++
        ':' :: (spacing.colon ++ (written (level + 1) value ++ moreEntries level rest))))
end

/-! ### Compact texts -/

@[simp] theorem Spacing.line_compact (level : Nat) : Spacing.compact.line level = [] := rfl

@[simp] theorem Spacing.colon_compact : Spacing.compact.colon = [] := rfl

/-- Parts behind a part, each with a comma in front of it. -/
def commaBefore (parts : List String) : List Char :=
  parts.flatMap fun part => ',' :: part.toList

theorem toList_commaSeparated (part : String) (parts : List String) :
    (Text.commaSeparated (part :: parts)).toList = part.toList ++ commaBefore parts := by
  induction parts generalizing part with
  | nil => simp [Text.commaSeparated, commaBefore]
  | cons next rest ih =>
      rw [Text.commaSeparated, String.toList_append, String.toList_append, ih]
      simp [commaBefore]

mutual
theorem toList_text : ∀ (level : Nat) (json : Json),
    json.text.toList = written .compact level json
  | _, .null => rfl
  | _, .bool _ => rfl
  | _, .integer _ => rfl
  | _, .float _ => rfl
  | _, .string _ => rfl
  | _, .array [] => rfl
  | level, .array (item :: rest) => by
      have hitem := toList_text (level + 1) item
      have hrest := commaBefore_itemTexts level rest
      simp [text, itemTexts, written, toList_commaSeparated, hitem, ← hrest]
  | _, .object [] => rfl
  | level, .object ((key, value) :: rest) => by
      have hvalue := toList_text (level + 1) value
      have hrest := commaBefore_entryTexts level rest
      simp [text, entryTexts, written, toList_commaSeparated, hvalue, ← hrest]

theorem commaBefore_itemTexts : ∀ (level : Nat) (items : List Json),
    commaBefore (itemTexts items) ++ [']'] = moreItems .compact level items
  | _, [] => rfl
  | level, item :: rest => by
      have hitem := toList_text (level + 1) item
      have hrest := commaBefore_itemTexts level rest
      simp [itemTexts, moreItems, commaBefore, hitem, ← hrest]

theorem commaBefore_entryTexts : ∀ (level : Nat) (entries : List (String × Json)),
    commaBefore (entryTexts entries) ++ ['\x7d'] = moreEntries .compact level entries
  | _, [] => rfl
  | level, (key, value) :: rest => by
      have hvalue := toList_text (level + 1) value
      have hrest := commaBefore_entryTexts level rest
      simp [entryTexts, moreEntries, commaBefore, hvalue, ← hrest]
end

/-! ### Indented texts -/

theorem Spacing.line_pretty (level : Nat) :
    Spacing.pretty.line level = '\n' :: (indentation level).toList := rfl

@[simp] theorem Spacing.colon_pretty : Spacing.pretty.colon = [' '] := rfl

/-- Parts behind a part, each on a line of its own. -/
def lineBefore (level : Nat) (parts : List String) : List Char :=
  parts.flatMap fun part => ',' :: (Spacing.pretty.line level ++ part.toList)

theorem toList_intercalate_lines (level : Nat) (part : String) (parts : List String) :
    ((",\n" ++ indentation level).intercalate (part :: parts)).toList =
      part.toList ++ lineBefore level parts := by
  induction parts generalizing part with
  | nil => simp [lineBefore]
  | cons next rest ih =>
      rw [String.intercalate_cons_cons, String.toList_append, ih]
      simp [lineBefore, Spacing.line_pretty]

theorem toList_block (opening closing part : String) (level : Nat) (parts : List String) :
    (block opening closing level (part :: parts)).toList =
      opening.toList ++ (Spacing.pretty.line (level + 1) ++ (part.toList ++
        (lineBefore (level + 1) parts ++ (Spacing.pretty.line level ++ closing.toList)))) := by
  have hline : "," ++ ("\n" ++ indentation (level + 1)) = ",\n" ++ indentation (level + 1) := by
    rw [← String.append_assoc]
    rfl
  simp only [block, List.isEmpty_cons, Bool.false_eq_true, if_false, hline, String.toList_append,
    toList_intercalate_lines, Spacing.line_pretty]
  simp

mutual
theorem toList_indented : ∀ (level : Nat) (json : Json),
    (json.indented level).toList = written .pretty level json
  | _, .null => rfl
  | _, .bool _ => rfl
  | _, .integer _ => rfl
  | _, .float _ => rfl
  | _, .string _ => rfl
  | _, .array [] => by simp [indented, indentedItems, block, written]
  | level, .array (item :: rest) => by
      have hitem := toList_indented (level + 1) item
      have hrest := lineBefore_indentedItems level rest
      simp [indented, indentedItems, written, toList_block, hitem, ← hrest]
  | _, .object [] => by simp [indented, indentedEntries, block, written]
  | level, .object ((key, value) :: rest) => by
      have hvalue := toList_indented (level + 1) value
      have hrest := lineBefore_indentedEntries level rest
      simp [indented, indentedEntries, written, toList_block, hvalue, ← hrest]

theorem lineBefore_indentedItems : ∀ (level : Nat) (items : List Json),
    lineBefore (level + 1) (indentedItems (level + 1) items) ++
        (Spacing.pretty.line level ++ [']']) = moreItems .pretty level items
  | _, [] => rfl
  | level, item :: rest => by
      have hitem := toList_indented (level + 1) item
      have hrest := lineBefore_indentedItems level rest
      simp [indentedItems, moreItems, lineBefore, hitem, ← hrest]

theorem lineBefore_indentedEntries : ∀ (level : Nat) (entries : List (String × Json)),
    lineBefore (level + 1) (indentedEntries (level + 1) entries) ++
        (Spacing.pretty.line level ++ ['\x7d']) = moreEntries .pretty level entries
  | _, [] => rfl
  | level, (key, value) :: rest => by
      have hvalue := toList_indented (level + 1) value
      have hrest := lineBefore_indentedEntries level rest
      simp [indentedEntries, moreEntries, lineBefore, hvalue, ← hrest]
end

end SelectionCompiler.Json
