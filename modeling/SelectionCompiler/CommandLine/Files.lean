/-!
# Files

What the command line needs of a file system: the bytes under a path, or the reason why there are
none.  `Directory` is a directory of files held in memory, in which a path is followed component
by component.
-/

namespace SelectionCompiler.CommandLine

/-- Why the text of a file cannot be had. -/
inductive FileError where
  | missing
  | notDirectory
  | isDirectory
  | nameTooLong
  | invalidText
  | other (message : String)
deriving DecidableEq

/-- The text that tells why a file cannot be read. -/
def FileError.message : FileError → String
  | .missing => "No such file or directory (os error 2)"
  | .notDirectory => "Not a directory (os error 20)"
  | .isDirectory => "Is a directory (os error 21)"
  | .nameTooLong => "File name too long (os error 36)"
  | .invalidText => "stream did not contain valid UTF-8"
  | .other message => message

/-- The text that bytes encode. -/
def textOfBytes (bytes : ByteArray) : Except FileError String :=
  match String.fromUTF8? bytes with
  | some text => .ok text
  | none => .error .invalidText

/-- Files under their names.  A name may have several components, and the last file under a name
counts. -/
structure Directory where
  files : List (String × ByteArray)

/-- Where a path leads: out of a directory, or to the file or directory with the given components
below it. -/
inductive Place where
  | outside
  | inside (path : List (List Char))

namespace Directory

/-- The parts of a path between its slashes. -/
def splitPath : List Char → List (List Char)
  | [] => [[]]
  | c :: rest =>
      if c = '/' then [] :: splitPath rest
      else
        match splitPath rest with
        | [] => [[c]]
        | part :: parts => (c :: part) :: parts

/-- A component that leads nowhere else. -/
def staysHere (part : List Char) : Bool :=
  part = [] || part = ['.']

/-- The components of a name, without those that lead nowhere else. -/
def components (name : String) : List (List Char) :=
  (splitPath name.toList).filter (!staysHere ·)

/-- The bytes of the last file under the given components. -/
def file? (directory : Directory) (path : List (List Char)) : Option ByteArray :=
  (directory.files.reverse.find? fun file => components file.1 = path).map Prod.snd

/-- There is a file or a directory under the given components. -/
def has (directory : Directory) (path : List (List Char)) : Bool :=
  path.isEmpty || directory.files.any fun file => path.isPrefixOf (components file.1)

/-- A component takes at most 255 bytes. -/
def fits (part : List Char) : Bool :=
  (String.ofList part).utf8ByteSize ≤ 255

/-- Follows one component of a path.  Nothing is known of the world outside but that it is made of
directories. -/
def follow (directory : Directory) (place : Place) (part : List Char) : Except FileError Place :=
  match place with
  | .outside =>
      if staysHere part || part = ['.', '.'] then .ok .outside
      else if fits part then .error .missing
      else .error .nameTooLong
  | .inside path =>
      if (directory.file? path).isSome then .error .notDirectory
      else if staysHere part then .ok (.inside path)
      else if part = ['.', '.'] then .ok (if path.isEmpty then .outside else .inside path.dropLast)
      else if !fits part then .error .nameTooLong
      else if directory.has (path ++ [part]) then .ok (.inside (path ++ [part]))
      else .error .missing

/-- Follows a path to the bytes of a file.  A path takes at most 4095 bytes. -/
def read (directory : Directory) (path : String) : Except FileError ByteArray :=
  let start := if path.toList.head? = some '/' then Place.outside else .inside []
  if path.isEmpty then .error .missing
  else if 4095 < path.utf8ByteSize then .error .nameTooLong
  else
    match (splitPath path.toList).foldlM directory.follow start with
    | .error error => .error error
    | .ok .outside => .error .isDirectory
    | .ok (.inside path) =>
        match directory.file? path with
        | some bytes => .ok bytes
        | none => .error .isDirectory

end Directory

end SelectionCompiler.CommandLine
