import SelectionCompiler.TypeRef

/-!
# Merging the requirements of two uses

A variable that is used at several places is declared once, with a type that has to suit all of
them.  `strengthen` keeps the shape of the first type and adds to it every non-null marker that
the second one has at the same list level.  Where the shapes part, the first type is kept.
-/

namespace SelectionCompiler.TypeRef

/-- The type with a non-null marker outside if one is called for, unchanged otherwise. -/
def requireIf (required : Bool) (type : TypeRef) : TypeRef :=
  if required then type.toNonNull else type

/-- The first type with the non-null markers of both.  Elements are merged as long as both types
have a list level; the inner part of a type that has none there stays as in the first. -/
def strengthen : TypeRef → TypeRef → TypeRef
  | .named name, other => requireIf other.isNonNull (.named name)
  | .list element, other =>
      match other.toNullable with
      | .list otherElement =>
          requireIf other.isNonNull (.list (strengthen element otherElement))
      | _ => requireIf other.isNonNull (.list element)
  | .nonNull (.list element), other =>
      match other.toNullable with
      | .list otherElement => .nonNull (.list (strengthen element otherElement))
      | _ => .nonNull (.list element)
  | .nonNull inner, _ => inner.toNonNull

end SelectionCompiler.TypeRef
