import WireSchema.CommandLine.Command
import WireSchema.Document.Value

namespace WireSchema.CommandLine

/-!
The record of a call.

Generated modules tell by which command line they were made.  The record names the command, then
its arguments and then its options, both in the order in which the command declares them.  What is
not given is left out, and a path that exists is shortened to its name, so that the record does not
depend on the place of the files.
-/

def toolName : String := "proto_schema_gen"

/-- How a parameter of a command is recorded. -/
inductive ParameterForm where
  | argument
  /-- The word of an option and its value. -/
  | option (long : String)
  /-- Only the word of an option. -/
  | switch (long : String)
deriving DecidableEq, Repr

def OptionSpec.form (spec : OptionSpec) : ParameterForm :=
  if spec.takesValue then .option spec.long else .switch spec.long

structure CommandRecord where
  name : String
  parameters : List (String × ParameterForm)
deriving Repr

def CommandRecord.of (name : String) (specs : List OptionSpec) (arguments : List String) :
    CommandRecord :=
  { name
    parameters := specs.map (fun spec => (spec.name, spec.form))
      ++ arguments.map fun argument => (argument, .argument) }

def generateRecord : CommandRecord := .of "generate" generateSpecs ["path", "output"]

def compileRecord : CommandRecord := .of "protoc" compileSpecs ["schema_dir"]

/-- The text of a value: the name of a path that exists, and every other value as it is printed.  A
path that is too long cannot be asked for. -/
def valueText (workspace : Workspace) (value : Value) : Outcome String :=
  match value with
  | .text path => do
      let location := workspace.locationOf path
      let found ← (workspace.holds location).mapError Failure.ofFile
      return if found then location.name else path
  | value => .ok value.display

/-- The values of an option: the items of a list, or the value alone. -/
def valuesOf : Value → List Value
  | .list items => items
  | value => [value]

/-- The words of one parameter in a record of the given kind of parameters. -/
def parameterWords (workspace : Workspace) (values : Members) (arguments : Bool)
    (parameter : String × ParameterForm) : Outcome (List String) :=
  let value := Members.getD values parameter.1 .null
  if !value.isTruthy then .ok []
  else
    match parameter.2, arguments with
    | .argument, true => do return [← valueText workspace value]
    | .option long, false => do
        let texts ← (valuesOf value).mapM (valueText workspace)
        return texts.flatMap fun text => [long, text]
    | .switch long, false => .ok [long]
    | _, _ => .ok []

def record (workspace : Workspace) (command : CommandRecord) (values : Members) :
    Outcome String := do
  let arguments ← command.parameters.mapM (parameterWords workspace values true)
  let options ← command.parameters.mapM (parameterWords workspace values false)
  let parts := [toolName, command.name] ++ arguments.flatten ++ options.flatten
  return String.intercalate " " (parts.filter (· != ""))

def pathValue (path : Option GivenPath) : Value :=
  (path.map fun path => Value.text path.text).getD .null

def GenerateCall.values (call : GenerateCall) : Members := Members.ofTexts
  [("config", pathValue call.config),
   ("strategy", (call.strategy.map fun strategy => Value.text strategy.word).getD .null),
   ("formats", .list (call.formats.map Value.text)), ("stubs", .bool call.withStubs),
   ("run_protoc", .bool call.withCompiler), ("path", pathValue (some call.path)),
   ("output", pathValue call.output)]

def GenerateCall.record (workspace : Workspace) (call : GenerateCall) : Outcome String :=
  CommandLine.record workspace generateRecord call.values

end WireSchema.CommandLine
