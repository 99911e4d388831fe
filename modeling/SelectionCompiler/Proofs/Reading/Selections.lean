import SelectionCompiler.Proofs.Reading.Values

/-!
# Reading selections

The text of a selection set is read back node by node.  A node ends where the next one starts or the
set closes, and neither starts with a character that could go on with the node: no colon, no opening
parenthesis or brace and no directive.  The blank behind a node is left to whoever reads on.
-/

namespace SelectionCompiler

/-- The field has a name, its alias is a name if it has one, and its arguments are regular. -/
def Field.isRegular (head : Field) : Bool :=
  Name.isValid head.name && head.aliasName.all Name.isValid &&
    Value.entriesAreRegular head.arguments

namespace Selection

mutual
/-- All names in the selection are names, there are no floats in its arguments, and no inline
fragment is empty. -/
def isRegular : Selection → Bool
  | .field head selections => head.isRegular && areRegular selections
  | .fragment typeCondition selections =>
      Name.isValid typeCondition && !selections.isEmpty && areRegular selections
  | .unknown => true

/-- All selections of a set are regular. -/
def areRegular : List Selection → Bool
  | [] => true
  | selection :: rest => isRegular selection && areRegular rest
end

mutual
/-- The node that shows a selection, if it is of a known kind. -/
def node? : Selection → Option Executable.Node
  | .field head selections =>
      some (.field head.aliasName head.name head.arguments [] (nodes selections))
  | .fragment typeCondition selections => some (.inline (some typeCondition) [] (nodes selections))
  | .unknown => none

/-- The nodes that show the selections of a set. -/
def nodes : List Selection → List Executable.Node
  | [] => []
  | selection :: rest => (node? selection).toList ++ nodes rest
end

variable {schema : Schema} {parent : Option String} {path : String}

theorem exists_node {selection : Selection}
    (hok : Finding.errors (selection.findings schema parent path) = []) :
    ∃ node, (selection.normal schema parent).node? = some node := by
  cases selection with
  | field head selections => exact ⟨_, rfl⟩
  | fragment typeCondition selections => exact ⟨_, rfl⟩
  | unknown => cases hok

theorem nodes_isEmpty {selections : List Selection}
    (hok : Finding.errors (setFindings schema parent path selections) = []) :
    (nodes (normalSet schema parent selections)).isEmpty = selections.isEmpty := by
  cases selections with
  | nil => rfl
  | cons selection rest =>
      rw [setFindings, Finding.errors_append, List.append_eq_nil_iff] at hok
      obtain ⟨node, hnode⟩ := exists_node hok.1
      simp [normalSet, nodes, hnode]

end Selection

namespace Executable

open Token

variable {dialect : Dialect} {budget : Nat} {s rest : List Char}

/-! ### Continuations -/

/-- The characters with which a node can go on behind its name. -/
def continuesNode : List Char :=
  [':', '(', '@', '\x7b']

/-- A node does not go on here. -/
def endsNode (dialect : Dialect) (s : List Char) : Prop :=
  ∀ c ∈ continuesNode, takePunctuator dialect c s = none

theorem endsNode_blank (hs : endsNode dialect s) : endsNode dialect (' ' :: s) := by
  intro c hc
  rw [takePunctuator_of_isIgnored (by decide)]
  exact hs c hc

/-- Where a node can be read, the next token is no punctuator. -/
theorem takePunctuator_of_readNode {found : Node × List Char}
    (hread : readNode dialect budget s = some found) (c : Char) :
    takePunctuator dialect c s = none := by
  cases budget with
  | zero => simp [readNode] at hread
  | succ budget =>
      unfold takePunctuator
      split
      · rename_i p behind hnext
        simp [readNode, hnext] at hread
      · rfl

/-- Where nodes can be read, the one before them has ended. -/
theorem endsNode_of_readNodes {found : List Node × List Char}
    (hread : readNodes dialect budget s = some found) : endsNode dialect s := by
  intro c hc
  cases budget with
  | zero => simp [readNodes] at hread
  | succ budget =>
      cases hclose : takePunctuator dialect '\x7d' s with
      | none =>
          cases hnode : readNode dialect budget s with
          | none => simp [readNodes, hclose, hnode] at hread
          | some node => exact takePunctuator_of_readNode hnode c
      | some behind =>
          have hahead := ahead?_of_next?_punctuator (next?_of_takePunctuator hclose)
          refine takePunctuator_eq_none ?_
          rw [hahead]
          rintro ⟨⟩
          revert hc
          decide

/-! ### Steps of the reader -/

theorem readDirectives_none (hs : takePunctuator dialect '@' s = none) :
    readDirectives dialect (budget + 1) s = some ([], s) := by
  rw [readDirectives, hs]

theorem readArguments_none (hs : takePunctuator dialect '(' s = none) :
    readArguments dialect budget s = some ([], s) := by
  rw [readArguments, hs]

theorem readNode_blank (s : List Char) :
    readNode dialect budget (' ' :: s) = readNode dialect budget s := by
  cases budget with
  | zero => simp only [readNode]
  | succ budget => simp only [readNode, next?_of_isIgnored (c := ' ') (by decide)]

theorem readNodes_blank (s : List Char) :
    readNodes dialect budget (' ' :: s) = readNodes dialect budget s := by
  cases budget with
  | zero => simp only [readNodes]
  | succ budget =>
      simp only [readNodes, takePunctuator_of_isIgnored (c := ' ') (by decide), readNode_blank]

theorem readNodes_close (s : List Char) :
    readNodes dialect (budget + 1) ('\x7d' :: s) = some ([], s) := by
  rw [readNodes, takePunctuator_cons (by decide)]

theorem readNodes_cons {node : Node} {nodes : List Node} {behind : List Char}
    (hnode : readNode dialect budget s = some (node, rest))
    (hnodes : readNodes dialect budget rest = some (nodes, behind)) :
    readNodes dialect (budget + 1) s = some (node :: nodes, behind) := by
  rw [readNodes, takePunctuator_of_readNode hnode]
  simp only [hnode, hnodes, Option.bind_eq_bind, Option.bind_some]

theorem readArguments_parentheses {arguments : List (String × Value)}
    (hentries : readEntries dialect false ')' budget s = some (arguments, rest))
    (harguments : arguments ≠ []) :
    readArguments dialect budget ('(' :: s) = some (arguments, rest) := by
  rw [readArguments, takePunctuator_cons (by decide)]
  simp [hentries, harguments]

/-- Behind its alias and its name a field is read from its arguments on. -/
theorem readNode_fieldHead {head : Field} (hname : Name.isValid head.name = true)
    (halias : head.aliasName.all Name.isValid = true) (hs : endsName s)
    (hcolon : takePunctuator dialect ':' s = none) :
    readNode dialect (budget + 1) ((Compile.fieldHead head).toList ++ s) = (do
      let (arguments, rest) ← readArguments dialect budget s
      let (directives, rest) ← readDirectives dialect budget rest
      match takePunctuator dialect '\x7b' rest with
      | none => some (.field head.aliasName head.name arguments directives [], rest)
      | some rest => do
          let (selections, rest) ← readNodes dialect budget rest
          if selections.isEmpty then none
          else some (.field head.aliasName head.name arguments directives selections, rest)) := by
  unfold Compile.fieldHead
  cases hhead : head.aliasName with
  | none =>
      simp only
      rw [readNode, next?_name hname hs]
      simp only [hcolon]
      rfl
  | some aliasName =>
      rw [hhead] at halias
      have htext : (aliasName ++ ":" ++ head.name).toList ++ s =
          aliasName.toList ++ ':' :: (head.name.toList ++ s) := by simp
      simp only
      rw [htext, readNode, next?_name halias (endsName_cons (by decide) _)]
      simp only [takePunctuator_cons (c := ':') (by decide), takeName_name hname hs]
      rfl

/-- A field without selections ends behind its arguments. -/
theorem readNode_leaf {head : Field} {arguments : List (String × Value)}
    (hname : Name.isValid head.name = true) (halias : head.aliasName.all Name.isValid = true)
    (hs : endsName s) (hcolon : takePunctuator dialect ':' s = none)
    (harguments : readArguments dialect (budget + 1) s = some (arguments, rest))
    (hrest : endsNode dialect rest) :
    readNode dialect (budget + 2) ((Compile.fieldHead head).toList ++ s) =
      some (.field head.aliasName head.name arguments [] [], rest) := by
  have hdirectives : readDirectives dialect (budget + 1) rest = some ([], rest) :=
    readDirectives_none (hrest '@' (by decide))
  have hbrace : takePunctuator dialect '\x7b' rest = none := hrest '\x7b' (by decide)
  rw [readNode_fieldHead hname halias hs hcolon, harguments]
  simp only [hdirectives, hbrace, Option.bind_eq_bind, Option.bind_some]

/-- A field with selections ends behind them. -/
theorem readNode_set {head : Field} {arguments : List (String × Value)} {nodes : List Node}
    {behind : List Char} (hname : Name.isValid head.name = true)
    (halias : head.aliasName.all Name.isValid = true) (hs : endsName s)
    (hcolon : takePunctuator dialect ':' s = none)
    (harguments : readArguments dialect (budget + 1) s = some (arguments, '\x7b' :: rest))
    (hnodes : readNodes dialect (budget + 1) rest = some (nodes, behind))
    (hnonempty : nodes.isEmpty = false) :
    readNode dialect (budget + 2) ((Compile.fieldHead head).toList ++ s) =
      some (.field head.aliasName head.name arguments [] nodes, behind) := by
  have hdirectives : readDirectives dialect (budget + 1) ('\x7b' :: rest) =
      some ([], '\x7b' :: rest) :=
    readDirectives_none (takePunctuator_cons_of_ne (by decide) (by decide) rest)
  rw [readNode_fieldHead hname halias hs hcolon, harguments]
  simp only [hdirectives, takePunctuator_cons (c := '\x7b') (by decide), hnodes, hnonempty,
    Option.bind_eq_bind, Option.bind_some, Bool.false_eq_true, if_false]

/-- An inline fragment ends behind its selections. -/
theorem readNode_fragment {typeCondition : String} {nodes : List Node} {behind : List Char}
    (hname : Name.isValid typeCondition = true)
    (hnodes : readNodes dialect (budget + 1) s = some (nodes, behind))
    (hnonempty : nodes.isEmpty = false) :
    readNode dialect (budget + 2)
        ("... on ".toList ++ (typeCondition.toList ++ ' ' :: '\x7b' :: s)) =
      some (.inline (some typeCondition) [] nodes, behind) := by
  have htext : "... on ".toList ++ (typeCondition.toList ++ ' ' :: '\x7b' :: s) =
      '.' :: '.' :: '.' :: ' ' :: ("on".toList ++ ' ' :: (typeCondition.toList ++
        ' ' :: '\x7b' :: s)) := by simp
  have hblank : Token.isIgnored ' ' = true := by decide
  have hdirectives : readDirectives dialect (budget + 1) (' ' :: '\x7b' :: s) =
      some ([], ' ' :: '\x7b' :: s) := by
    refine readDirectives_none ?_
    rw [takePunctuator_of_isIgnored hblank]
    exact takePunctuator_cons_of_ne (by decide) (by decide) s
  have hon : takeName dialect (' ' :: ("on".toList ++ ' ' :: (typeCondition.toList ++
      ' ' :: '\x7b' :: s))) = some ("on", ' ' :: (typeCondition.toList ++ ' ' :: '\x7b' :: s)) := by
    rw [takeName_of_isIgnored hblank]
    exact takeName_name (by decide) (endsName_cons (by decide) _)
  have hcondition : takeName dialect (' ' :: (typeCondition.toList ++ ' ' :: '\x7b' :: s)) =
      some (typeCondition, ' ' :: '\x7b' :: s) := by
    rw [takeName_of_isIgnored hblank]
    exact takeName_name hname (endsName_cons (by decide) _)
  have hbrace : takePunctuator dialect '\x7b' (' ' :: '\x7b' :: s) = some s := by
    rw [takePunctuator_of_isIgnored hblank]
    exact takePunctuator_cons (by decide) s
  rw [htext, readNode, next?_spread]
  simp only [hon, hcondition, hdirectives, hbrace, hnodes, hnonempty, if_true,
    Option.bind_eq_bind, Option.bind_some, Bool.false_eq_true, if_false]

/-! ### Arguments -/

theorem endsName_argumentsText (head : Field) (hs : endsName s) :
    endsName (head.argumentsText.toList ++ s) := by
  unfold Field.argumentsText
  split
  · exact hs
  · simpa using endsName_cons (c := '(') (by decide) _

theorem takePunctuator_argumentsText (head : Field) (hs : takePunctuator dialect ':' s = none) :
    takePunctuator dialect ':' (head.argumentsText.toList ++ s) = none := by
  unfold Field.argumentsText
  split
  · exact hs
  · simp only [String.toList_append, List.append_assoc]
    exact takePunctuator_cons_of_ne (p := '(') (by decide) (by decide) _

theorem readArguments_argumentsText {schema : Schema} {parent : Option String} {path : String}
    {head : Field} (hregular : Value.entriesAreRegular head.arguments = true)
    (hok : Finding.errors (head.findings schema parent path) = []) (budget : Nat)
    (hs : takePunctuator .standard '(' s = none)
    (hbudget : 3 * (head.normal schema parent).argumentsText.toList.length ≤ budget) :
    readArguments .standard budget ((head.normal schema parent).argumentsText.toList ++ s) =
      some ((head.normal schema parent).arguments, s) := by
  unfold Field.argumentsText at hbudget ⊢
  split
  · rename_i hempty
    rw [List.isEmpty_iff.mp hempty]
    exact readArguments_none hs
  · rename_i hnonempty
    rw [if_neg hnonempty] at hbudget
    simp only [String.toList_append, List.length_append] at hbudget
    have hentries := Value.readEntries_entryTexts ')' (by decide) (by decide) head.arguments
      hregular hok budget (s := s) (by simp [Field.normal] at hbudget; omega)
    have harguments : (head.normal schema parent).arguments ≠ [] := by
      simpa using hnonempty
    simpa [Field.normal] using readArguments_parentheses hentries harguments

end Executable

/-! ### Selections -/

namespace Selection

open Executable

theorem text_length_pos {schema : Schema} {parent : Option String} {path : String}
    {selection : Selection} (hok : Finding.errors (selection.findings schema parent path) = []) :
    0 < (selection.normal schema parent).text.toList.length := by
  cases selection with
  | field head selections =>
      unfold normal text
      split
      · simp only [String.toList_append, List.length_append]
        exact Nat.add_pos_right _ (by decide)
      · simp only [String.toList_append, List.length_append]
        exact Nat.add_pos_right _ (Nat.add_pos_right _ (by decide))
  | fragment typeCondition selections =>
      simp [normal, text]
  | unknown => cases hok

mutual
/-- A selection without violations is read back from its text, up to the blank behind it. -/
theorem readNode_text {schema : Schema} {parent : Option String} {path : String} :
    ∀ selection : Selection, selection.isRegular = true →
      Finding.errors (selection.findings schema parent path) = [] →
      ∀ (budget : Nat) {s : List Char},
      3 * (selection.normal schema parent).text.toList.length + 1 ≤ budget →
      endsNode .standard s →
      readNode .standard budget ((selection.normal schema parent).text.toList ++ s) =
        (selection.normal schema parent).node?.map fun node => (node, ' ' :: s)
  | .field head selections, hregular, hok, budget, s, hbudget, hs => by
      -- One level is spent on the node, another one on the absence of directives.
      obtain ⟨budget, rfl⟩ : ∃ less, budget = less + 2 :=
        ⟨budget - 2, by have hpos := text_length_pos hok; omega⟩
      simp only [isRegular, Field.isRegular, Bool.and_eq_true] at hregular
      obtain ⟨⟨⟨hname, halias⟩, harguments⟩, hselections⟩ := hregular
      simp only [findings, Finding.errors_append, List.append_eq_nil_iff] at hok
      have hhead : Compile.fieldHead (head.normal schema parent) = Compile.fieldHead head := rfl
      have hnode : (field (head.normal schema parent) (normalSet schema none selections)).node? =
          some (.field head.aliasName head.name (head.normal schema parent).arguments []
            (nodes (normalSet schema none selections))) := rfl
      simp only [normal, text, hhead, hnode, Option.map_some, normalSet_isEmpty,
        String.toList_append, List.length_append, List.append_assoc] at hbudget ⊢
      cases hempty : selections.isEmpty with
      | true =>
          -- What stands behind the blank decides that the field has no selections.
          rw [hempty] at hbudget
          have hends : endsNode .standard (' ' :: s) := endsNode_blank hs
          have harguments := readArguments_argumentsText harguments hok.1 (budget + 1)
            (hends '(' (by decide)) (by simp at hbudget; omega)
          have hread := readNode_leaf hname halias
            (endsName_argumentsText _ (endsName_cons (by decide) s))
            (takePunctuator_argumentsText _ (hends ':' (by decide))) harguments hends
          rw [List.isEmpty_iff.mp hempty]
          simpa [nodes, normalSet] using hread
      | false =>
          -- The brace ends the arguments, so nothing need be known of what follows the field.
          rw [hempty] at hbudget
          simp at hbudget
          have harguments := readArguments_argumentsText harguments hok.1 (budget + 1)
            (takePunctuator_cons_of_ne (p := '\x7b') (by decide) (by decide)
              ((setText (normalSet schema none selections)).toList ++ '\x7d' :: ' ' :: s))
            (by omega)
          have hnodes := readNodes_setText selections hselections hok.2 (budget + 1)
            (s := ' ' :: s) (by simp; omega)
          have hread := readNode_set hname halias
            (endsName_argumentsText _ (endsName_cons (by decide) _))
            (takePunctuator_argumentsText _
              (takePunctuator_cons_of_ne (by decide) (by decide) _)) harguments hnodes
            (by rw [nodes_isEmpty hok.2, hempty])
          simpa using hread
  | .fragment typeCondition selections, hregular, hok, budget, s, hbudget, hs => by
      obtain ⟨budget, rfl⟩ : ∃ less, budget = less + 2 :=
        ⟨budget - 2, by have hpos := text_length_pos hok; omega⟩
      simp only [isRegular, Bool.and_eq_true, Bool.not_eq_true'] at hregular
      obtain ⟨⟨hname, hnonempty⟩, hselections⟩ := hregular
      simp only [normal, text, String.toList_append, List.length_append] at hbudget
      have hnodes := readNodes_setText selections hselections hok (budget + 1) (s := ' ' :: s)
        (by simp at hbudget; omega)
      have hread := readNode_fragment hname hnodes (by rw [nodes_isEmpty hok, hnonempty])
      simpa [normal, text, node?] using hread

/-- The selections of a set without violations are read back from their texts. -/
theorem readNodes_setText {schema : Schema} {parent : Option String} {path : String} :
    ∀ selections : List Selection, areRegular selections = true →
      Finding.errors (setFindings schema parent path selections) = [] →
      ∀ (budget : Nat) {s : List Char},
      3 * (setText (normalSet schema parent selections)).toList.length + 2 ≤ budget →
      readNodes .standard budget
          ((setText (normalSet schema parent selections)).toList ++ '\x7d' :: s) =
        some (nodes (normalSet schema parent selections), s)
  | [], _, _, budget + 1, s, _ => readNodes_close s
  | selection :: rest, hregular, hok, budget + 1, s, hbudget => by
      obtain ⟨hregular, hregulars⟩ := Bool.and_eq_true_iff.mp hregular
      obtain ⟨hok, hoks⟩ := List.append_eq_nil_iff.mp (Finding.errors_append ▸ hok)
      have hpos := text_length_pos hok
      obtain ⟨node, hnode⟩ := exists_node hok
      simp only [normalSet, setText, String.toList_append, List.length_append,
        List.append_assoc] at hbudget ⊢
      have hnodes := readNodes_setText rest hregulars hoks budget (s := s) (by omega)
      have hfirst := readNode_text selection hregular hok budget
        (s := (setText (normalSet schema parent rest)).toList ++ '\x7d' :: s) (by omega)
        (endsNode_of_readNodes hnodes)
      rw [hnode] at hfirst
      have hall := readNodes_cons hfirst (readNodes_blank _ ▸ hnodes)
      simpa [nodes, hnode] using hall
end

end Selection

end SelectionCompiler
