import SelectionCompiler.CommandLine.Files
import SelectionCompiler.Compile.Operation
import SelectionCompiler.Document.Json
import SelectionCompiler.Schema.Description
import SelectionCompiler.Schema.Json
import SelectionCompiler.Selection.Json

/-!
# The command line

Three commands compile an operation from a file that holds a snapshot and a file that holds a
selection tree: `query` and `mutation` print the document, `variables` prints the declarations of
the query.  A fourth one prints the description of snapshot files.

A run either succeeds with a text on the standard output, or fails with a text on the standard
error output and the exit code one.  The access to files is a parameter: `run` works in any monad
in which paths can be read.
-/

namespace SelectionCompiler.CommandLine

/-- Why a run fails. -/
inductive Failure where
  | noCommand
  | unknownCommand
  | missingPaths
  | schemaFile (path : String) (error : FileError)
  | schemaText (error : Json.ReadError)
  | selectionFile (path : String) (error : FileError)
  | selectionText (error : Json.ReadError)
  | compilation (error : CompileError)

/-- The text that tells why a run failed. -/
def Failure.message : Failure → String
  | .noCommand => "Usage: qb-dev-cli <command> [...]"
  | .unknownCommand =>
      "Unknown command. Available commands: query, mutation, variables, metadata-schema"
  | .missingPaths =>
      "Usage: qb-dev-cli <query|mutation|variables> <metadata_path> <selection_path> [name]"
  | .schemaFile path error =>
      "Failed to load schema metadata: Failed to read schema metadata from '" ++ path ++ "': " ++
        error.message
  | .schemaText error =>
      "Failed to load schema metadata: " ++ Schema.readErrorMessage error
  | .selectionFile path error => "Unable to read " ++ path ++ ": " ++ error.message
  | .selectionText error => "Invalid selection tree: " ++ error.message
  | .compilation error => "Failed to compile document: " ++ error.message

/-- The end of a run. -/
structure Outcome where
  exitCode : UInt32
  stdout : String
  stderr : String
deriving DecidableEq

namespace Outcome

/-- A run that printed a text and a line break behind it. -/
def success (text : String) : Outcome :=
  ⟨0, text ++ "\n", ""⟩

/-- A run that printed why it failed, and a line break behind that. -/
def failure (failure : Failure) : Outcome :=
  ⟨1, "", failure.message ++ "\n"⟩

end Outcome

section

variable {m : Type → Type} [Monad m] (read : String → m (Except FileError ByteArray))

/-- The text of the file under a path. -/
def readText (path : String) : m (Except FileError String) := do
  let bytes ← read path
  pure (bytes.bind textOfBytes)

/-- The snapshot in the file under a path. -/
def loadSchema (path : String) : ExceptT Failure m Schema := do
  match ← ExceptT.lift (readText read path) with
  | .error error => throw (.schemaFile path error)
  | .ok text =>
      match Schema.ofJsonText text with
      | .error error => throw (.schemaText error)
      | .ok schema => pure schema

/-- The tree in the file under a path. -/
def loadSelections (path : String) : ExceptT Failure m (List Selection) := do
  match ← ExceptT.lift (readText read path) with
  | .error error => throw (.selectionFile path error)
  | .ok text =>
      match Selection.setOfJsonText text with
      | .error error => throw (.selectionText error)
      | .ok selections => pure selections

/-- Compiles the operation that the arguments behind a command describe: the paths of the two
files and, if it is given, the name. -/
def compileFiles (kind : OperationKind) (arguments : List String) :
    ExceptT Failure m Document := do
  match arguments with
  | schemaPath :: selectionPath :: more => do
      -- the snapshot comes first: where both files are bad, its failure is the one told
      let schema ← loadSchema read schemaPath
      let selections ← loadSelections read selectionPath
      match (Compile.operation schema kind more.head? selections).1 with
      | .error error => throw (.compilation error)
      | .ok document => pure document
  | _ => throw .missingPaths

/-- The text that `query` and `mutation` print: the document. -/
def printDocument (kind : OperationKind) (arguments : List String) :
    ExceptT Failure m String := do
  let document ← compileFiles read kind arguments
  pure document.text

/-- The text that `variables` prints: the declarations of the query. -/
def printVariables (arguments : List String) : ExceptT Failure m String := do
  -- compiled as `query` compiles it, whichever operation the tree is meant for
  let document ← compileFiles read .query arguments
  pure (VariableDefinition.listToJson document.definitions).prettyText

/-- The text that a run prints for its arguments, of which the first is the command. -/
def output (arguments : List String) : ExceptT Failure m String :=
  match arguments with
  | [] => throw .noCommand
  | command :: rest =>
      if command = "query" then printDocument read .query rest
      else if command = "mutation" then printDocument read .mutation rest
      else if command = "variables" then printVariables read rest
      else if command = "metadata-schema" then pure Schema.jsonSchema.prettyText
      else throw .unknownCommand

/-- Runs the program on its arguments. -/
def run (arguments : List String) : m Outcome := do
  match ← (output read arguments).run with
  | .ok text => pure (.success text)
  | .error failure => pure (.failure failure)

end

/-- Runs the program on its arguments in a directory held in memory. -/
def runIn (directory : Directory) (arguments : List String) : Outcome :=
  Id.run (run (fun path => pure (directory.read path)) arguments)

end SelectionCompiler.CommandLine
