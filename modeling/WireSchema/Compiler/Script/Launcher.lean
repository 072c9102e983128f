import WireSchema.Compiler.Request
import WireSchema.Compiler.Script.Run

namespace WireSchema

/-!
A launcher without a system.

Requests to the compiler leave it to a launcher how a program is started, and nothing that is said
of them depends on which one it is.  The launcher here needs no operating system: it carries out the
few programs that print their arguments, succeed or fail, and scripts of the shell, on the workspace
alone.  It stands in for the system when the tool runs on a workspace that is a value.
-/

/-- Why a program that is no program of the system cannot be started. -/
def launchFault (workspace : Workspace) (program : String) : Launch :=
  if program = "" then .refused .notAdmitted
  else if !program.toList.contains '/' then .missing
  else
    match workspace.locate (workspace.locationOf program) with
    | .error .notFound => .missing
    | .error fault => .refused fault
    | .ok names => if (workspace.entry? names).isSome then .refused .notAdmitted else .missing

/-- What a program leaves behind that has printed bytes. -/
def Launch.ofBytes (code : Int) (output errors : String) : Launch :=
  match Script.textOf? output, Script.textOf? errors with
  | some output, some errors => .done ⟨code, output, errors⟩
  | _, _ => .unreadable

/-- Carries out the programs that only print their arguments, succeed, fail or carry out a
script. -/
def plainLauncher : Launcher
  | [] => return .missing
  | program :: words => do
      match Script.programName program with
      | "echo" => return .ofBytes 0 (Script.echoProgramText (words.map Script.spelled)) ""
      | "true" => return .done ⟨0, "", ""⟩
      | "false" => return .done ⟨1, "", ""⟩
      | "sh" => do
          let result := Script.run (← get) words
          set result.workspace
          return .ofBytes result.code result.output result.errors
      | _ => return launchFault (← get) program

end WireSchema
