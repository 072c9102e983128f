import WireSchema.Text.Lines
import WireSchema.Text.ShellWords
import WireSchema.Workspace.Basic

namespace WireSchema

/-!
Requests to the schema compiler.

The compiler is an outer program.  A request says how it is called for all schema files below a
directory; it is carried out once, and a compiler that fails makes the run fail with everything
that it printed.  How a program is started is left to a launcher.
-/

structure CompilerRequest where
  /-- The program with its first arguments, as a command line. -/
  program : Value
  arguments : List String
  files : List String
  outputDirectory : Value
  modulePath : Value
deriving Repr

/-- What a program leaves behind. -/
structure ProgramResult where
  code : Int
  output : String
  errors : String
deriving DecidableEq, Repr, Inhabited

/-- What comes of starting a program.  A program that has run is done even when
it reports failure; the other cases leave no code to look at. -/
inductive Launch where
  | done (result : ProgramResult)
  /-- What the program has printed is no text. -/
  | unreadable
  /-- There is no such program. -/
  | missing
  /-- What has the name of the program cannot be started. -/
  | refused (fault : FileFault)
deriving Repr

/-- Starts the program of a list of words.  What it does lies outside of this
project, so that everything about a run is said for any launcher. -/
abbrev Launcher := List String → StateM Workspace Launch

namespace CompilerRequest

def schemaSuffix : String := ".proto"

/-- The schema files below a directory by their paths from there, in order. -/
def filesBelow (workspace : Workspace) (names : List String) : List String :=
  let found := (workspace.below names).filter fun entry =>
    Text.endsWith (entry.1.getLast?.getD "") schemaSuffix
  (found.map fun entry => String.intercalate "/" entry.1).mergeSort
    fun first second => decide (first ≤ second)

/-- The schema files of a location; none when it is no directory. -/
def schemaFiles (workspace : Workspace) (directory : Location) :
    Except FileFault (List String) := do
  if !(← workspace.holdsDirectory directory) then return []
  else return ((workspace.locate directory).map (filesBelow workspace)).toOption.getD []

/-- The request for a directory, which is given to the compiler under the path `path`. -/
def of (workspace : Workspace) (stubs : StubOptions) (directory : Location) (path : String) :
    Outcome CompilerRequest := do
  let output := stubs.outputDirectory.display
  let files ← (schemaFiles workspace directory).mapError Failure.ofFile
  return { program := stubs.compilerProgram
           arguments := ["-I", path, "--python_out=" ++ output, "--grpc_python_out=" ++ output]
           files
           outputDirectory := stubs.outputDirectory
           modulePath := stubs.protobufPackage }

def programWords : Value → Outcome (List String)
  | .text program =>
      (Text.shellWords program).mapError fun _ => Failure.outer OuterFault.commandLine
  | .null => .error (.outer .commandLine)
  | _ => .error (.ofShape .noOperation)

def words (request : CompilerRequest) : Outcome (List String) := do
  return (← programWords request.program) ++ request.arguments ++ request.files

def makeOutputDirectory (request : CompilerRequest) : Job Unit := do
  if request.outputDirectory.isTruthy then
    match request.outputDirectory with
    | .text path => let _ ← Job.makeDirectory ((← get).locationOf path)
    | _ => throw (Failure.ofShape .wrongKind)

/-- A result with line feeds as the only line ends of what was printed. -/
def readable (result : ProgramResult) : ProgramResult :=
  { result with
    output := Text.withLineFeeds result.output
    errors := Text.withLineFeeds result.errors }

/-- The result of a launched program; one that reports failure has none.  The
failure shows all that was printed, since programs differ in where they put
their errors. -/
def accepted (request : CompilerRequest) : Launch → Outcome ProgramResult
  | .missing => .error (.tool (.notFound request.program.display))
  | .refused fault => .error (.ofFile fault)
  | .unreadable => .error (.outer .encoding)
  | .done result =>
      let printed := readable result
      if printed.code = 0 then .ok printed
      else .error (.tool (.failed printed.code (printed.output ++ printed.errors)))

def launched (launch : Launcher) (words : List String) : Job Launch := do
  let (result, workspace) := (launch words).run (← get)
  set workspace
  return result

/-- Carries out a request; without schema files there is nothing to do.  The
output directory is made first, and stays when the program cannot be started. -/
def run (launch : Launcher) (request : CompilerRequest) : Job (Option ProgramResult) := do
  if request.files.isEmpty then return none
  request.makeOutputDirectory
  let words ← Job.lift request.words
  if words.any Location.holdsPathEnd then throw (Failure.ofFile .noPath)
  return some (← Job.lift (request.accepted (← launched launch words)))

end CompilerRequest

end WireSchema
