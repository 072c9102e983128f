import WireSchema.CommandLine.Record
import WireSchema.Compiler.Request
import WireSchema.Stub.Files
import WireSchema.Workspace.Document
import WireSchema.Workspace.Writer

namespace WireSchema.CommandLine

/-!
Running a call.

A call loads its options and its model, writes the schema files, then the stubs and at last calls
the compiler.  It tells what was written after each of these steps; a step that fails ends the run,
and what was done before it stays done.
-/

/-! ## Steps that print -/

/-- The state of a run: the files and the lines printed so far. -/
structure RunState where
  workspace : Workspace
  lines : List String

/-- A step of a run that may print lines. -/
abbrev Run := ExceptT Failure (StateM RunState)

namespace Run

def print (line : String) : Run Unit :=
  modify fun state => { state with lines := state.lines ++ [line] }

def job {α : Type} (step : Job α) : Run α := do
  let state ← get
  let (result, workspace) := step.run.run state.workspace
  set { state with workspace }
  MonadExcept.ofExcept result

def reading {α : Type} (step : Workspace → Outcome α) : Run α := job (Job.reading step)

end Run

/-! ## Parts of a run -/

def loadOptions (config : Option GivenPath) : Run Options :=
  match config with
  | none => return {}
  | some path => Run.reading fun workspace => workspace.loadOptions path.location

/-- Options with the formats of a call: the schema itself and then all others. -/
def withFormats (formats : List String) (options : Options) : Outcome Options :=
  if formats.isEmpty then .ok options
  else do
    let requested ← (formats.mapM Options.readFormat).mapError fun fault => .config (.option fault)
    return { options with outputFormats := .read (.proto :: requested.filter (· != .proto)) }

def withStubs (options : Options) : Outcome Options := do
  let stubs ← Failure.liftShape options.stubs.content
  return { options with stubs := .read { stubs with enabled := .bool true } }

def overrideOptions (call : GenerateCall) (options : Options) : Outcome Options := do
  let strategy := (call.strategy.map Section.read).getD options.strategy
  let options := { options with strategy }
  let options ← withFormats call.formats options
  if call.withStubs then withStubs options else return options

/-- The directory below which a run writes: that of the call, else that of the options. -/
def baseDirectory (workspace : Workspace) (output : Option GivenPath) (options : Options) :
    Outcome Location :=
  match output with
  | some path => .ok path.location
  | none =>
      match options.output.orElse (.text ".") with
      | .text path => .ok (workspace.locationOf path)
      | _ => .error (.ofShape .wrongKind)

/-- Writes files and tells where. -/
def writeAll (base : Location) (files : List FilePlan.GeneratedFile) : Run Unit := do
  let written ← Run.job (Workspace.writeFiles Workspace.standardChecks base files)
  let root := (← get).workspace.root
  written.forM fun location => Run.print ("Wrote " ++ location.print root)

def writeStubs (base : Location) (model : Model) (options : Options) (call : GenerateCall) :
    Run Unit := do
  let stubs ← Run.reading fun _ => Failure.liftShape options.stubs.content
  if stubs.enabled.isTruthy then
    let files ← Run.reading fun workspace => do
      Stub.generate workspace model options (← call.record workspace)
    writeAll base files

/-- The stub options of a compiler call, with the output directory below the base directory. -/
def compilerOptions (workspace : Workspace) (base : Location) (options : Options) :
    Outcome StubOptions := do
  let stubs ← Failure.liftShape options.stubs.content
  match stubs.outputDirectory with
  | .text path =>
      let output := base.join (workspace.locationOf path)
      return { stubs with outputDirectory := .text (output.print workspace.root) }
  | _ => .error (.ofShape .wrongKind)

/-- Calls the compiler for the schema files below a directory. -/
def compile (launch : Launcher) (options : Options) (directory base : Location) : Run Unit := do
  let stubs ← Run.reading fun workspace => compilerOptions workspace base options
  let workspace := (← get).workspace
  let path := directory.print workspace.root
  let request ← Run.reading fun workspace => CompilerRequest.of workspace stubs directory path
  if request.files.isEmpty then Run.print ("No .proto files found in " ++ path)
  else
    let _ ← Run.job (request.run launch)
    Run.print ("Compiled " ++ toString request.files.length ++ " proto file(s) into "
      ++ request.outputDirectory.display)

/-! ## Calls -/

def GenerateCall.run (launch : Launcher) (call : GenerateCall) : Run Unit := do
  let loaded ← loadOptions call.config
  let options ← Run.reading fun _ => overrideOptions call loaded
  let model ← Run.reading fun workspace => workspace.loadModel call.path.location
  let base ← Run.reading fun workspace => baseDirectory workspace call.output options
  let files ← Run.reading fun _ => FilePlan.generate options model
  writeAll base files
  writeStubs base model options call
  if call.withCompiler then compile launch options base base

def CompileCall.run (launch : Launcher) (call : CompileCall) : Run Unit := do
  let options ← loadOptions call.config
  let base ← Run.reading fun workspace => baseDirectory workspace call.output options
  compile launch options call.directory.location base

def Call.run (launch : Launcher) : Call → Run Unit
  | .generate call => call.run launch
  | .compile call => call.run launch

/-! ## The tool -/

/-- How a run of the tool ends. -/
inductive Ending where
  | done
  | failed (failure : Failure)
  /-- The command line cannot be used. -/
  | misused
deriving Repr

def Ending.code : Ending → Nat
  | done => 0
  | failed _ => 1
  | misused => 2

/-- What a run of the tool leaves behind. -/
structure Report where
  ending : Ending
  lines : List String
  workspace : Workspace

/-- Everything that a run prints. -/
def Report.output (report : Report) : String :=
  String.join (report.lines.map (· ++ "\n"))

def runTool (launch : Launcher) (workspace : Workspace) (words : List String) : Report :=
  match readCall workspace words with
  | .error .unusable => { ending := .misused, lines := [], workspace }
  | .error .noPath => { ending := .failed (.ofFile .noPath), lines := [], workspace }
  | .ok call =>
      match (call.run launch).run.run { workspace, lines := [] } with
      | (.ok _, state) => { ending := .done, lines := state.lines, workspace := state.workspace }
      | (.error failure, state) =>
          { ending := .failed failure, lines := state.lines, workspace := state.workspace }

/-- The text that the tool shows of a failure: its message and then its findings. -/
def failureText (outerText : OuterFault → String) (failure : Failure) : String :=
  match failure with
  | .invalid findings =>
      String.intercalate "\n" (failure.message outerText :: findings.map (·.text))
  | _ => failure.message outerText

end WireSchema.CommandLine
