import SelectionCompiler.Event
import SelectionCompiler.Table
import SelectionCompiler.TypeRef.Merge

/-!
# The variable registry

The registry collects the variables of one operation.  Each use of a variable is registered with
the type of the place where it stands.  The first use makes the declaration; later uses can only
add non-null markers to it.  The declarations keep the order of the first uses.
-/

namespace SelectionCompiler

/-- The use of a variable at a place of a known type. -/
structure Usage where
  /-- The name of the variable, without its dollar sign. -/
  name : String
  /-- The type of the place. -/
  type : TypeRef
  /-- The variable must be declared non-null even if the place accepts null. -/
  alwaysRequired : Bool
deriving DecidableEq

namespace Usage

/-- The type that this use alone calls for. -/
def requiredType (usage : Usage) : TypeRef :=
  TypeRef.requireIf usage.alwaysRequired usage.type

end Usage

/-- The declared types of the variables met so far, in the order of their first uses. -/
structure Registry where
  entries : Table TypeRef
deriving DecidableEq

namespace Registry

/-- The registry before the first use. -/
def empty : Registry :=
  ⟨[]⟩

/-- The declared type of a variable, if it was met. -/
def get? (registry : Registry) (name : String) : Option TypeRef :=
  registry.entries.get? name

/-- The number of variables that were met. -/
def size (registry : Registry) : Nat :=
  registry.entries.length

/-- No variable was met. -/
def isEmpty (registry : Registry) : Bool :=
  registry.entries.isEmpty

/-- The registry after one more use of a variable. -/
def register (registry : Registry) (usage : Usage) : Registry :=
  match registry.get? usage.name with
  | none => ⟨registry.entries ++ [(usage.name, usage.requiredType)]⟩
  | some declared =>
      ⟨registry.entries.put usage.name (declared.strengthen usage.requiredType)⟩

/-- The events of one more use: the new or the merged declaration, preceded by a warning when the
types differ by more than their outermost markers. -/
def eventsOf (registry : Registry) (usage : Usage) : List Event :=
  let used := usage.requiredType
  match registry.get? usage.name with
  | none => [.registered usage.name used]
  | some declared =>
      (if declared.sameShape used then [] else [.conflict usage.name used declared]) ++
        [.reused usage.name (declared.strengthen used)]

/-- The registry after a sequence of uses. -/
def registerAll (registry : Registry) (usages : List Usage) : Registry :=
  usages.foldl register registry

end Registry

end SelectionCompiler
