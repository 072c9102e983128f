import WireSchema.Compiler.Script.Fields
import WireSchema.Compiler.Script.Programs
import WireSchema.Compiler.Script.Reader

namespace WireSchema.Script

/-!
The state of a running script.

A script has parameters, variables, functions and streams, and it works in a folder.  A stream leads
to a buffer, which is read and written, or to a file.  A step of a script can be cut short: a loop
is left, a function returns, or the script ends.
-/

/-- Where a stream leads. -/
inductive Channel where
  | buffer (place : Nat)
  | file (names : List String)
  | nowhere
deriving DecidableEq, Repr, Inhabited

/-- Settings that change how a script runs. -/
structure Modes where
  /-- The script ends when a command fails that is not a test. -/
  stopsOnFailure : Bool := false
  /-- A parameter without a value is a fault. -/
  demandsValues : Bool := false
  /-- Commands are printed before they are carried out. -/
  traces : Bool := false
  /-- Patterns do not stand for files. -/
  keepsPatterns : Bool := false
deriving Inhabited

/-- The state of a running script. -/
structure Machine where
  /-- The name by which the script reports faults. -/
  name : String
  parameters : List String
  environment : List (String × String)
  /-- The names of variables that other programs see. -/
  exported : List String := []
  /-- The names of variables that cannot be set. -/
  fixed : List String := []
  functions : List (String × Command) := []
  folder : Folder
  streams : List (Nat × Channel) := [(0, .buffer 0), (1, .buffer 1), (2, .buffer 2)]
  /-- What is to be read, what is printed and what is reported; then further buffers. -/
  buffers : Array String := #["", "", ""]
  modes : Modes := {}
  status : Nat := 0
  /-- The status of the last command whose output was taken for a word. -/
  outputStatus : Nat := 0
  line : Nat := 1
  /-- The name of the command of the shell that is being carried out. -/
  builtin : Option String := none
  /-- The number of loops around the command that is being carried out. -/
  loops : Nat := 0
  /-- The variables that a function has hidden, with their values before. -/
  hidden : Option (List (String × Option String)) := none
  /-- A text that is carried out at the end. -/
  atEnd : Option String := none
deriving Inhabited

/-- Why a step is cut short. -/
inductive Stop where
  /-- So many loops are left. -/
  | leave (loops : Nat)
  /-- So many loops are left but for the last one, which goes on. -/
  | goOn (loops : Nat)
  /-- A function returns. -/
  | back
  | exit
  /-- The script is ended by a signal. -/
  | signal (number : Nat)
deriving DecidableEq, Repr, Inhabited

abbrev Step := ExceptT Stop (StateM Machine)

/-- The variables that a script starts with. -/
def firstVariables (root : String) : List (String × String) :=
  [("IFS", " \t\n"), ("OPTIND", "1"), ("PS1", "$ "), ("PS2", "> "), ("PS4", "+ "),
   ("PWD", spelled root)]

/-- The number by which a script is known to other programs. -/
def ownNumber : String := "1"

namespace Machine

/-! ## Streams -/

/-- Where a stream leads. -/
def channel (machine : Machine) (stream : Nat) : Channel :=
  ((machine.streams.find? (·.1 == stream)).map (·.2)).getD .nowhere

/-- Lets a stream lead somewhere else. -/
def redirect (machine : Machine) (stream : Nat) (channel : Channel) : Machine :=
  { machine with
    streams := (stream, channel) :: machine.streams.filter (·.1 != stream) }

def write (machine : Machine) (stream : Nat) (text : String) : Machine :=
  match machine.channel stream with
  | .buffer place => { machine with buffers := machine.buffers.modify place (· ++ text) }
  | .file names =>
      match machine.folder.workspace.entry? names with
      | some (.file content) =>
          { machine with folder := machine.folder.store names (Folder.bytesIn content ++ text) }
      | _ => machine
  | .nowhere => machine

def held (machine : Machine) (stream : Nat) : String :=
  match machine.channel stream with
  | .buffer place => (machine.buffers[place]?).getD ""
  | _ => ""

/-- Leaves something else to be read from a stream. -/
def leave (machine : Machine) (stream : Nat) (text : String) : Machine :=
  match machine.channel stream with
  | .buffer place => { machine with buffers := machine.buffers.modify place fun _ => text }
  | _ => machine

/-- Adds a buffer that holds a text, and gives its place. -/
def addBuffer (machine : Machine) (text : String) : Nat × Machine :=
  (machine.buffers.size, { machine with buffers := machine.buffers.push text })

/-! ## Variables -/

/-- The value of a variable. -/
def stored? (machine : Machine) (name : String) : Option String :=
  (machine.environment.find? (·.1 == name)).map (·.2)

/-- Gives a variable a value, or none. -/
def assign (machine : Machine) (name : String) (value : Option String) : Machine :=
  let others := machine.environment.filter (·.1 != name)
  { machine with
    environment := match value with
      | some value => (name, value) :: others
      | none => others }

def modeLetters (machine : Machine) : String :=
  let letter (isSet : Bool) (text : String) : String := if isSet then text else ""
  letter machine.modes.stopsOnFailure "e" ++ letter machine.modes.keepsPatterns "f"
    ++ letter machine.modes.traces "x" ++ letter machine.modes.demandsValues "u"

def valueOf? (machine : Machine) (name : String) : Option String :=
  match name with
  | "#" => some (toString machine.parameters.length)
  | "?" => some (toString machine.status)
  | "-" => some machine.modeLetters
  | "$" => some ownNumber
  | "!" => none
  | "LINENO" => some (toString machine.line)
  | _ =>
      if name.toList.all Char.isDigit then
        let place := (Sum.digitsIn 10 0 name.toList).1
        if place = 0 then some machine.name else machine.parameters[place - 1]?
      else machine.stored? name

/-- The text of a fault, with the place where it is noticed. -/
def faultText (machine : Machine) (message : String) : String :=
  machine.name ++ ": " ++ toString machine.line ++ ": "
    ++ (machine.builtin.elim "" fun name => name ++ ": ") ++ message ++ "\n"

end Machine

namespace Step

def setStatus (status : Nat) : Step Unit :=
  modify fun machine => { machine with status }

def print (text : String) : Step Unit := modify (·.write 1 text)

def report (message : String) : Step Unit :=
  modify fun machine => machine.write 2 (machine.faultText message)

/-- Reports a fault and ends the script. -/
def fail {α : Type} (message : String) : Step α := do
  report message
  setStatus 2
  throw Stop.exit

/-- Sets a variable, unless it is fixed. -/
def assign (name value : String) : Step Unit := do
  if (← get).fixed.contains name then fail (name ++ ": is read only")
  modify (·.assign name (some value))

/-- Carries out a step and tells how it ended. -/
def observe {α : Type} (step : Step α) : Step (Except Stop α) := do
  let (result, machine) := step.run.run (← get)
  set machine
  return result

/-- Carries out a step as another script does that shares files and streams with this one. -/
def isolated (step : Step Unit) : Step Unit := do
  let before ← get
  let result ← observe step
  let after ← get
  let status := match result with
    | .error (.signal number) => 128 + number
    | _ => after.status
  set { before with
    folder := { before.folder with workspace := after.folder.workspace }
    buffers := after.buffers
    status }

/-- Carries out the body of a loop, and tells whether the loop goes on. -/
def inLoop (body : Step Unit) : Step Bool := do
  modify fun machine => { machine with loops := machine.loops + 1 }
  let result ← observe body
  modify fun machine => { machine with loops := machine.loops - 1 }
  match result with
  | .ok _ => return true
  | .error (.leave (loops + 2)) => throw (.leave (loops + 1))
  | .error (.leave _) => return false
  | .error (.goOn (loops + 2)) => throw (.goOn (loops + 1))
  | .error (.goOn _) => return true
  | .error stop => throw stop

/-- Ends the script when a command has failed that is not a test. -/
def stopOnFailure (isTest : Bool) : Step Unit := do
  let machine ← get
  if machine.modes.stopsOnFailure && !isTest && machine.status != 0 then throw Stop.exit

/-! ## Redirections -/

def openFile (empties : Bool) (path : String) : Step (Except String Channel) := do
  let machine ← get
  if path = Folder.emptyFile then return .ok .nowhere
  else if path = "/dev/stdout" then return .ok (machine.channel 1)
  else if path = "/dev/stderr" then return .ok (machine.channel 2)
  match machine.folder.target path with
  | .ok (names, bytes) =>
      let folder := machine.folder.store names (if empties then "" else bytes)
      set { machine with folder }
      return .ok (.file names)
  | .error fault =>
      let reason :=
        match fault with
        | .notFound => "Directory nonexistent"
        | .notDirectory => "Directory nonexistent"
        | _ => Folder.faultText fault
      return .error ("cannot create " ++ path ++ ": " ++ reason)

/-- Why a file cannot be opened to be read. -/
def openFault : FileFault → String
  | .notFound => "No such file"
  | .notDirectory => "No such file"
  | fault => Folder.faultText fault

def openToRead (path : String) : Step (Except String Channel) := do
  let machine ← get
  if path = "/dev/stdin" then return .ok (machine.channel 0)
  match machine.folder.read path with
  | .ok bytes =>
      let (place, machine) := machine.addBuffer bytes
      set machine
      return .ok (.buffer place)
  | .error fault => return .error ("cannot open " ++ path ++ ": " ++ openFault fault)

/-- Where a stream is to lead. -/
def openChannel (direction : Direction) (target : String) : Step (Except String Channel) := do
  match direction with
  | .create => openFile true target
  | .append => openFile false target
  | .read => openToRead target
  | .given =>
      let (place, machine) := (← get).addBuffer target
      set machine
      return .ok (.buffer place)
  | .copy =>
      match target.toList with
      | ['-'] => return .ok .nowhere
      | [c] =>
          let streams := (← get).streams
          if !c.isDigit then return .error "Syntax error: Bad fd number"
          else
            match streams.find? (·.1 == c.toNat - '0'.toNat) with
            | some stream => return .ok stream.2
            | none => return .error (target ++ ": Bad file descriptor")
      | _ => return .error "Syntax error: Bad fd number"

/-- Redirects streams one after the other, and tells whether all could be redirected. -/
def redirectAll : List (Nat × Direction × String) → Step Bool
  | [] => return true
  | (stream, direction, target) :: others => do
      match ← openChannel direction target with
      | .ok channel =>
          modify (·.redirect stream channel)
          redirectAll others
      | .error message =>
          report message
          return false

end Step

end WireSchema.Script
