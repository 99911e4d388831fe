/-!
# Type references

A type reference names a type and wraps it in list and non-null markers, as in `[ID!]!`.  The
functions here look at the outermost wrappers, which is all that GraphQL's rules on coercion and
on requiredness need.

A reference is *well formed* when no non-null marker directly wraps another one.  The grammar can
write only such references, but stacked markers can be built, so nothing here assumes their
absence.
-/

namespace SelectionCompiler

/-- A named type under list and non-null wrappers. -/
inductive TypeRef where
  | list (element : TypeRef)
  | nonNull (inner : TypeRef)
  | named (name : String)
deriving DecidableEq, Inhabited

namespace TypeRef

/-- The outermost wrapper is a non-null marker. -/
def isNonNull : TypeRef → Bool
  | .nonNull _ => true
  | _ => false

/-- A list, possibly under non-null markers. -/
def isList : TypeRef → Bool
  | .list _ => true
  | .nonNull inner => inner.isList
  | .named _ => false

/-- The named type under all wrappers. -/
def baseName : TypeRef → String
  | .list element => element.baseName
  | .nonNull inner => inner.baseName
  | .named name => name

/-- The type of the elements of the outermost list. -/
def element? : TypeRef → Option TypeRef
  | .list element => some element
  | .nonNull inner => inner.element?
  | .named _ => none

/-- The type of the items of a list value that stands where this type is expected.  A type without
a list level also accepts a list of its values, so it is then kept as it is. -/
def itemType (type : TypeRef) : TypeRef :=
  type.element?.getD type

/-- The type with a non-null marker outside; a marker that is already there is not repeated. -/
def toNonNull : TypeRef → TypeRef
  | .nonNull inner => .nonNull inner
  | type => .nonNull type

/-- The type without its outermost non-null marker. -/
def toNullable : TypeRef → TypeRef
  | .nonNull inner => inner
  | type => type

/-- Equal up to the outermost non-null marker. -/
def sameShape (a b : TypeRef) : Bool :=
  a.toNullable == b.toNullable

/-- No non-null marker directly wraps another one. -/
def wellFormed : TypeRef → Bool
  | .list element => element.wellFormed
  | .nonNull inner => !inner.isNonNull && inner.wellFormed
  | .named _ => true

/-- The text of the reference: brackets around the element of a list, an exclamation mark behind a
non-null type. -/
def text : TypeRef → String
  | .list element => "[" ++ element.text ++ "]"
  | .nonNull inner => inner.text ++ "!"
  | .named name => name

end TypeRef

end SelectionCompiler
