import SelectionCompiler.TypeRef

/-!
# Events

What the compiler reports while it works: the fields and fragments it reaches, the arguments it
has written, what becomes of each use of a variable, and the finished document.  A use whose type
has another shape than the declaration is worth a warning, since the declaration is kept.
-/

namespace SelectionCompiler

/-- How urgent an event is. -/
inductive Level where
  | trace
  | debug
  | warn
deriving DecidableEq

/-- One step of a compilation. -/
inductive Event where
  /-- A variable got its declaration. -/
  | registered (name : String) (type : TypeRef)
  /-- A declared variable was used again and is now declared with this type. -/
  | reused (name : String) (type : TypeRef)
  /-- A variable was used with a type of another shape than its declaration. -/
  | conflict (name : String) (used declared : TypeRef)
  /-- The value of an argument was written. -/
  | argumentWritten (path text : String)
  /-- A field was reached. -/
  | fieldReached (path : String)
  /-- An inline fragment was reached. -/
  | fragmentReached (path : String)
  /-- The document is complete. -/
  | compiled (document : String)
deriving DecidableEq

namespace Event

/-- How urgent an event is.  Only a conflict is worth a warning. -/
def level : Event → Level
  | .conflict .. => .warn
  | .compiled _ => .debug
  | _ => .trace

/-- The text with which an event is reported. -/
def message : Event → String
  | .registered name type => "variable '$" ++ name ++ "' registered as '" ++ type.text ++ "'"
  | .reused name type => "variable '$" ++ name ++ "' reused as '" ++ type.text ++ "'"
  | .conflict name used declared =>
      "variable '$" ++ name ++ "' is used as '" ++ used.text ++ "' but was first declared as '" ++
        declared.text ++ "', keeping the first declaration"
  | .argumentWritten path text => "argument " ++ path ++ " serialized as " ++ text
  | .fieldReached path => "rendering field " ++ path
  | .fragmentReached path => "rendering inline fragment " ++ path
  | .compiled document => "compiled document: " ++ document

end Event

end SelectionCompiler
