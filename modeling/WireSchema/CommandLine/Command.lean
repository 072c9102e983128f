import WireSchema.CommandLine.Arguments
import WireSchema.Workspace.Basic

namespace WireSchema.CommandLine

/-!
The commands of the tool.

`generate` writes the schema files of a model and what follows from it; `protoc` calls the compiler
for a directory of schema files.  Paths are resolved before anything is done, and those that are
read must exist.
-/

/-- A path on the command line. -/
structure GivenPath where
  location : Location
  /-- The location in full. -/
  text : String
deriving DecidableEq, Repr

structure GenerateCall where
  config : Option GivenPath
  strategy : Option Strategy
  formats : List String
  withStubs : Bool
  withCompiler : Bool
  path : GivenPath
  output : Option GivenPath
deriving DecidableEq, Repr

/-- A call of the `protoc` command. -/
structure CompileCall where
  config : Option GivenPath
  output : Option GivenPath
  directory : GivenPath
deriving DecidableEq, Repr

inductive Call where
  | generate (call : GenerateCall)
  | compile (call : CompileCall)
deriving DecidableEq, Repr

/-! ## Options of the commands -/

def configSpec : OptionSpec :=
  { name := "config", long := "--config", letter := some 'c', takesValue := true }

def toolSpecs : List OptionSpec :=
  [{ name := "verbose", long := "--verbose", letter := some 'v', takesValue := false }]

def generateSpecs : List OptionSpec :=
  [configSpec,
   { name := "strategy", long := "--strategy", letter := some 's', takesValue := true },
   { name := "formats", long := "--format", letter := some 'f', takesValue := true },
   { name := "stubs", long := "--stubs", takesValue := false },
   { name := "run_protoc", long := "--run-protoc", takesValue := false }]

/-- The options of the `protoc` command. -/
def compileSpecs : List OptionSpec :=
  [configSpec,
   { name := "output", long := "--output", letter := some 'o', takesValue := true }]

/-! ## Paths -/

def givenPath (workspace : Workspace) (path : String) : Except UsageFault GivenPath :=
  let location := (workspace.locationOf path).resolved
  if Location.holdsPathEnd path then .error .noPath
  else .ok { location, text := location.print workspace.root }

/-- Accepts a path that passes a test; one that cannot be asked for does not. -/
def acceptPath (workspace : Workspace) (test : Location → Except FileFault Bool) (path : String) :
    Except UsageFault GivenPath := do
  let given ← givenPath workspace path
  if (test given.location).toOption == some true then return given else throw UsageFault.unusable

def existingPath (workspace : Workspace) : String → Except UsageFault GivenPath :=
  acceptPath workspace workspace.holds

def directoryPath (workspace : Workspace) : String → Except UsageFault GivenPath :=
  acceptPath workspace workspace.holdsDirectory

/-- The value of an option, if it is set and admitted. -/
def optional {α : Type} (read : String → Except UsageFault α) :
    Option String → Except UsageFault (Option α)
  | none => .ok none
  | some text => (read text).map some

def readStrategy (word : String) : Except UsageFault Strategy :=
  match Strategy.all.find? (·.word == word) with
  | some strategy => .ok strategy
  | none => .error .unusable

/-! ## Calls -/

def generateArguments : List String → Except UsageFault (String × Option String)
  | [path] => .ok (path, none)
  | [path, output] => .ok (path, some output)
  | _ => .error .unusable

def readGenerate (workspace : Workspace) (words : List String) :
    Except UsageFault GenerateCall := do
  let read ← readWords generateSpecs true words
  let (path, output) ← generateArguments read.arguments
  return { config := ← optional (existingPath workspace) (read.value? "config")
           strategy := ← optional readStrategy (read.value? "strategy")
           formats := read.values "formats"
           withStubs := read.has "stubs"
           withCompiler := read.has "run_protoc"
           path := ← existingPath workspace path
           output := ← optional (givenPath workspace) output }

/-- The directory of a `protoc` call. -/
def compileArgument : List String → Except UsageFault String
  | [directory] => .ok directory
  | _ => .error .unusable

/-- Reads the words after `protoc`. -/
def readCompile (workspace : Workspace) (words : List String) : Except UsageFault CompileCall := do
  let read ← readWords compileSpecs true words
  let directory ← compileArgument read.arguments
  return { config := ← optional (existingPath workspace) (read.value? "config")
           output := ← optional (givenPath workspace) (read.value? "output")
           directory := ← directoryPath workspace directory }

/-- Reads all words of a command line. -/
def readCall (workspace : Workspace) (words : List String) : Except UsageFault Call := do
  let read ← readWords toolSpecs false words
  match read.arguments with
  | "generate" :: words => return .generate (← readGenerate workspace words)
  | "protoc" :: words => return .compile (← readCompile workspace words)
  | _ => .error .unusable

end WireSchema.CommandLine
