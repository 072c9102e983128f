import WireSchema.Compiler.Script.Builtin

namespace WireSchema.Script

/-!
Running scripts.

Words are expanded, streams are redirected, variables are set, and then a command is carried out: a
command of the shell, a function, or a program of the system.  A script may run for ever; it is
carried out up to a depth that no script reaches that ends.
-/

/-- The code with which the system ends a program that is not found. -/
def missingCode : Nat := 127

/-- The code with which the system ends a program that cannot be started. -/
def refusedCode : Nat := 126

/-- The programs of the system that scripts can be asked about. -/
def directories : List String := ["/bin/", "/usr/bin/"]

/-- The name of a program that may be given with the directory of the system. -/
def programName (program : String) : String :=
  match directories.find? (Text.startsWith program) with
  | some directory => String.ofList (program.toList.drop directory.length)
  | none => program

/-- A text without the line feeds at its end and without the empty byte. -/
def trimmedOutput (text : String) : String :=
  String.ofList
    ((Text.trimEndWhile (· == '\n') (text.toList.filter (· != Char.ofNat 0))))

/-- The first separator of fields, by which quoted parameters are joined. -/
def joiner (machine : Machine) : String :=
  match machine.stored? "IFS" with
  | some separators => String.ofList (separators.toList.take 1)
  | none => " "

def sumMessage (expression : String) : SumFault → String
  | .malformed message => "arithmetic expression: " ++ message ++ ": \"" ++ expression ++ "\""
  | .noNumber text => "Illegal number: " ++ text

/-- The value of an arithmetic expression; variables that it sets are set. -/
def evaluateSum (expression : String) : Step String := do
  let machine ← get
  let parameters := machine.environment
  match sumOf parameters expression with
  | .ok (value, environment) =>
      set { machine with environment }
      return toString value
  | .error fault => Step.fail (sumMessage expression fault)

def items? (machine : Machine) (name : String) : Option (List String) :=
  if name = "@" || name = "*" then some machine.parameters else none

def valuePieces (name : String) (quoted : Bool) : Step (List Piece) := do
  let machine ← get
  match items? machine name with
  | some items =>
      if quoted && name = "*" then
        return Piece.ofText true (String.intercalate (joiner machine) items)
      else return Piece.ofItems quoted items
  | none =>
      match machine.valueOf? name with
      | some value => return Piece.ofText quoted value
      | none =>
          if machine.modes.demandsValues && name != "!" then
            Step.fail (name ++ ": parameter not set")
          else return []

/-- The value of a parameter; one that is a list has its items joined. -/
def wholeValue? (machine : Machine) (name : String) : Option String :=
  match items? machine name with
  | some [] => none
  | some items => some (String.intercalate " " items)
  | none => machine.valueOf? name

def lengthOf (name : String) : Step Nat := do
  let machine ← get
  match wholeValue? machine name with
  | some value => return value.length
  | none =>
      if machine.modes.demandsValues then Step.fail (name ++ ": parameter not set") else return 0

/-- Prints a command before it is carried out, where the modes say so. -/
def trace (settings : List (String × String)) (words : List String) : Step Unit := do
  if (← get).modes.traces then
    let parts := settings.map (fun setting => setting.1 ++ "=" ++ setting.2) ++ words
    modify fun machine =>
      machine.write 2
        ((machine.stored? "PS4").getD "" ++ String.intercalate " " parts ++ "\n")

/-- Carries out a step with settings that are lost afterwards. -/
def withSettings {α : Type} (settings : List (String × String)) (step : Step α) : Step α := do
  let before ← get
  settings.forM fun setting => do
    Step.assign setting.1 setting.2
    modify fun machine => { machine with exported := setting.1 :: machine.exported }
  let result ← Step.observe step
  modify fun machine =>
    settings.foldl (fun machine setting => machine.assign setting.1 (before.stored? setting.1))
      { machine with exported := before.exported }
  match result with
  | .ok value => return value
  | .error stop => throw stop

def reportMissing (program : String) : Step Nat := do
  let machine ← get
  if program = "" then
    Step.report ": Permission denied"
    return missingCode
  else if program.toList.contains '/' && machine.folder.kindOf program != .missing then
    Step.report (program ++ ": Permission denied")
    return refusedCode
  else
    Step.report (program ++ ": not found")
    return missingCode

/-- Carries out a program of the system. -/
def runProgram (program : Program) : Step Nat := do
  let machine ← get
  let (status, desk) := program.run { folder := machine.folder, input := machine.held 0 }
  set ((({ machine with folder := desk.folder }.leave 0 "").write 2 desk.errors).write 1
    desk.output)
  return status

/-- How a script is called: the text or the path of a script, its name and its parameters. -/
structure ScriptCall where
  modes : Modes := {}
  text : Option String
  path : Option String
  name : String
  parameters : List String

/-- The call of a script that words after its program make. -/
def scriptCall? (modes : Modes) (hasText : Bool) : List String → Option ScriptCall
  | [] => if hasText then none else some ⟨modes, some "", none, "sh", []⟩
  | word :: words =>
      match word.toList with
      | '-' :: c :: cs =>
          let letters := (c :: cs).filter (· != 'c')
          match Builtin.setLetters true modes letters with
          | .ok modes => scriptCall? modes (hasText || (c :: cs).contains 'c') words
          | .error _ => none
      | _ =>
          if hasText then some ⟨modes, some word, none, words.headD "sh", words.drop 1⟩
          else some ⟨modes, none, some word, word, words⟩

/-- What a command is, for a script that asks. -/
def describe (machine : Machine) (name : String) : Option String :=
  if (machine.functions.any (·.1 == name)) || specialNames.contains name
      || (Builtin.named? name []).isSome || name = "command" then some name
  else if (Program.named? name []).isSome || name = "sh" || name = "xargs" then
    some ("/usr/bin/" ++ name)
  else none

/-- The text of the script of a call, if it can be read. -/
def ScriptCall.text? (call : ScriptCall) (folder : Folder) : Option String :=
  match call.text, call.path with
  | some text, _ => some text
  | none, some path =>
      if folder.kindOf path == .directory then some "" else (folder.read path).toOption
  | none, none => some ""

def ScriptCall.start (call : ScriptCall) (machine : Machine) : Machine :=
  { machine with
    name := call.name, parameters := call.parameters, modes := call.modes
    environment := firstVariables machine.folder.workspace.root
      ++ machine.environment.filter (machine.exported.contains ·.1)
    functions := [], fixed := [], builtin := none, loops := 0, line := 1
    status := 0, hidden := none, atEnd := none }

/-- Reports that the script of a call cannot be read. -/
def ScriptCall.refuse (call : ScriptCall) (machine : Machine) : Machine :=
  { machine.write 2 ("sh: 0: cannot open " ++ call.name ++ ": No such file\n") with status := 2 }

def tellKinds (names : List String) : Step Nat := do
  let machine ← get
  let known ← names.mapM fun name => do
    let kind? :=
      if Reader.keywords.contains name then some "is a shell keyword"
      else if specialNames.contains name then some "is a special shell builtin"
      else if machine.functions.any (·.1 == name) then some "is a shell function"
      else if (Builtin.named? name []).isSome || name = "command" || name = "type" then
        some "is a shell builtin"
      else (describe machine name).map ("is " ++ ·)
    Step.print (name ++ (kind?.elim ": not found\n" fun kind => " " ++ kind ++ "\n"))
    return kind?.isSome
  return if known.all id then 0 else missingCode

mutual

/-- Expands parts; `splits` tells that their own characters separate fields. -/
def expandParts : Nat → Bool → List Part → Step (List Piece)
  | 0, _, _ => throw Stop.exit
  | fuel + 1, splits, parts => do
      return (← parts.mapM (expandPart fuel splits)).flatten

def expandPart : Nat → Bool → Part → Step (List Piece)
  | 0, _, _ => throw Stop.exit
  | _ + 1, splits, .character c quoted => return [.character c quoted (splits && !quoted)]
  | _ + 1, _, .mark => return [.mark]
  | fuel + 1, _, .parameter name use quoted => expandParameter fuel name use quoted
  | fuel + 1, _, .output command quoted => do
      return Piece.ofText quoted (← takeOutput fuel command)
  | fuel + 1, _, .number expression quoted => do
      return Piece.ofText quoted (← evaluateSum (← expandText fuel expression))

def expandParameter : Nat → String → Use → Bool → Step (List Piece)
  | 0, _, _, _ => throw Stop.exit
  | _ + 1, name, .plain, quoted => valuePieces name quoted
  | _ + 1, name, .length, quoted => do
      return Piece.ofText quoted (toString (← lengthOf name))
  | _ + 1, _, .malformed, _ => Step.fail "Bad substitution"
  | fuel + 1, name, .without atEnd longest pattern, quoted => do
      let value := (wholeValue? (← get) name).getD ""
      let pattern := Piece.pattern (← expandParts fuel false pattern)
      return Piece.ofText quoted
        (if atEnd then pattern.withoutEnd longest value else pattern.withoutStart longest value)
  | fuel + 1, name, .replaced replacement countsEmpty word, quoted => do
      let value := wholeValue? (← get) name
      let isMissing := value.isNone || (countsEmpty && value == some "")
      match replacement with
      | .alternative => if isMissing then return [] else expandParts fuel (!quoted) word
      | .fallback =>
          if isMissing then expandParts fuel (!quoted) word else valuePieces name quoted
      | .setting =>
          if isMissing then
            let text ← expandText fuel word
            Step.assign name text
            return Piece.ofText quoted text
          else valuePieces name quoted
      | .demand =>
          if isMissing then
            let text ← expandText fuel word
            Step.fail (name ++ ": "
              ++ (if word.isEmpty then
                  "parameter not set" ++ (if countsEmpty then " or null" else "")
                else text))
          else valuePieces name quoted

def expandText : Nat → List Part → Step String
  | 0, _ => throw Stop.exit
  | fuel + 1, parts => do return Piece.text (← expandParts fuel false parts)

def expandWords : Nat → List (List Part) → Step (List String)
  | 0, _ => throw Stop.exit
  | fuel + 1, words => do
      let fields ← words.mapM fun word => do
        let pieces ← expandParts fuel false word
        let machine ← get
        let separators := (machine.stored? "IFS").getD " \t\n"
        return (Piece.fields separators pieces).flatMap
          (wordsOf machine.folder (!machine.modes.keepsPatterns))
      return fields.flatten

/-- What a command prints, as the value of a word. -/
def takeOutput : Nat → Command → Step String
  | 0, _ => throw Stop.exit
  | fuel + 1, command => do
      let (place, machine) := (← get).addBuffer ""
      set machine
      Step.isolated do
        modify (·.redirect 1 (.buffer place))
        runCommand fuel false command
      modify fun after => { after with outputStatus := after.status, status := machine.status }
      return trimmedOutput (((← get).buffers[place]?).getD "")

def expandTargets : Nat → List Redirection → Step (List (Nat × Direction × String))
  | 0, _ => throw Stop.exit
  | fuel + 1, redirections =>
      redirections.mapM fun
        | .of stream direction target => do
            return (stream, direction, ← expandText fuel target)

/-- Carries out a command; `isTest` tells that the script goes on when it fails. -/
def runCommand : Nat → Bool → Command → Step Unit
  | 0, _, _ => throw Stop.exit
  | fuel + 1, isTest, command => do
      match command with
      | .nothing => return
      | .simple line settings words redirections =>
          runSimple fuel isTest line settings words redirections
          Step.stopOnFailure isTest
      | .sequence first second =>
          runCommand fuel isTest first
          runCommand fuel isTest second
      | .onSuccess first second =>
          runCommand fuel true first
          if (← get).status = 0 then runCommand fuel isTest second
      | .onFailure first second =>
          runCommand fuel true first
          if (← get).status != 0 then runCommand fuel isTest second
      | .negated command =>
          runCommand fuel true command
          Step.setStatus (if (← get).status = 0 then 1 else 0)
      | .pipe commands =>
          runPipe fuel isTest ((← get).channel 0) commands
          Step.stopOnFailure isTest
      | .background command =>
          Step.isolated (runCommand fuel true command)
          Step.setStatus 0
      | .redirected line command redirections =>
          modify fun machine => { machine with line }
          let before := (← get).streams
          let redirected ← Step.redirectAll (← expandTargets fuel redirections)
          let result ← Step.observe <|
            if redirected then runCommand fuel isTest command else Step.setStatus 2
          modify fun machine => { machine with streams := before }
          if let .error stop := result then throw stop
      | .subshell line command redirections =>
          modify fun machine => { machine with line }
          Step.isolated do
            if ← Step.redirectAll (← expandTargets fuel redirections) then
              runCommand fuel isTest command
            else Step.setStatus 2
          Step.stopOnFailure isTest
      | .branch test positive negative =>
          runCommand fuel true test
          if (← get).status = 0 then runCommand fuel isTest positive
          else
            Step.setStatus 0
            runCommand fuel isTest negative
      | .loop untilSuccess test body => runLoop fuel isTest untilSuccess test body 0
      | .each name words body =>
          let fields ← match words with
            | some words => expandWords fuel words
            | none => pure (← get).parameters
          Step.setStatus 0
          runEach fuel isTest name body fields
      | .choice word cases =>
          let text ← expandText fuel word
          Step.setStatus 0
          runChoice fuel isTest text cases
      | .definition name body =>
          modify fun machine =>
            { machine with
              functions := (name, body) :: machine.functions.filter (·.1 != name)
              status := 0 }

/-- Carries out the commands of a pipeline, the first of which reads from a channel. -/
def runPipe : Nat → Bool → Channel → List Command → Step Unit
  | 0, _, _, _ => throw Stop.exit
  | _ + 1, _, _, [] => return
  | fuel + 1, isTest, source, [last] =>
      Step.isolated do
        modify (·.redirect 0 source)
        runCommand fuel isTest last
  | fuel + 1, isTest, source, command :: commands => do
      let (place, machine) := (← get).addBuffer ""
      set machine
      Step.isolated do
        modify fun machine => (machine.redirect 0 source).redirect 1 (.buffer place)
        runCommand fuel isTest command
      runPipe fuel isTest (.buffer place) commands

/-- Repeats a body; `status` is that of the body before. -/
def runLoop : Nat → Bool → Bool → Command → Command → Nat → Step Unit
  | 0, _, _, _, _, _ => throw Stop.exit
  | fuel + 1, isTest, untilSuccess, test, body, status => do
      let goesOn ← Step.inLoop (runCommand fuel true test)
      if !goesOn then return
      else if ((← get).status == 0) == untilSuccess then Step.setStatus status
      else if ← Step.inLoop (runCommand fuel isTest body) then
        runLoop fuel isTest untilSuccess test body (← get).status

/-- Carries out a body for each field. -/
def runEach : Nat → Bool → String → Command → List String → Step Unit
  | 0, _, _, _, _ => throw Stop.exit
  | _ + 1, _, _, _, [] => return
  | fuel + 1, isTest, name, body, field :: fields => do
      Step.assign name field
      if ← Step.inLoop (runCommand fuel isTest body) then runEach fuel isTest name body fields

/-- Carries out the first case with a pattern that matches a text. -/
def runChoice : Nat → Bool → String → List (List (List Part) × Command) → Step Unit
  | 0, _, _, _ => throw Stop.exit
  | _ + 1, _, _, [] => return
  | fuel + 1, isTest, text, (patterns, command) :: cases => do
      let found ← patterns.anyM fun pattern => do
        return (Piece.pattern (← expandParts fuel false pattern)).covers text
      if found then runCommand fuel isTest command else runChoice fuel isTest text cases

/-- Carries out a command of words. -/
def runSimple : Nat → Bool → Nat → List (String × List Part) → List (List Part) →
    List Redirection → Step Unit
  | 0, _, _, _, _, _ => throw Stop.exit
  | fuel + 1, isTest, line, settings, words, redirections => do
      modify fun machine => { machine with line, outputStatus := 0 }
      let fields ← expandWords fuel words
      let before := (← get).streams
      let redirected ← Step.redirectAll (← expandTargets fuel redirections)
      if !redirected then
        modify fun machine => { machine with streams := before, status := 2 }
        if specialNames.contains (fields.headD "") then throw Stop.exit
      else
        let result ← Step.observe do
          let values ← settings.mapM fun setting => do
            let value ← expandText fuel setting.2
            if fields.isEmpty then Step.assign setting.1 value
            return (setting.1, value)
          if !(fields.isEmpty && values.isEmpty) then trace values fields
          match fields with
          | [] => Step.setStatus (← get).outputStatus
          | name :: words => Step.setStatus (← runNamed fuel isTest true values name words)
        if fields != ["exec"] then modify fun machine => { machine with streams := before }
        if let .error stop := result then throw stop

/-- Carries out the command with a name; functions count where they are asked for. -/
def runNamed : Nat → Bool → Bool → List (String × String) → String → List String → Step Nat
  | 0, _, _, _, _, _ => throw Stop.exit
  | fuel + 1, isTest, countsFunctions, settings, name, words => do
      if specialNames.contains name then
        settings.forM fun setting => Step.assign setting.1 setting.2
        Builtin.carryOut name <|
          match Builtin.named? name words with
          | some command => command
          | none => runSpecial fuel isTest name words
      else
        let function := (← get).functions.find? (·.1 == name)
        withSettings settings <|
          match countsFunctions, function with
          | true, some (_, body) => callFunction fuel isTest body words
          | _, _ =>
              match Builtin.named? name words with
              | some command => Builtin.carryOut name command
              | none => runOther fuel isTest name words

/-- Carries out a special command that carries out others. -/
def runSpecial : Nat → Bool → String → List String → Step Nat
  | 0, _, _, _ => throw Stop.exit
  | fuel + 1, isTest, name, words => do
      match name, words with
      | "eval", words => do
          Step.setStatus 0
          runLines fuel isTest { rest := (String.intercalate " " words).toList }
          return (← get).status
      | ".", path :: _ =>
          match (← get).folder.read path with
          | .error fault => Step.fail ("cannot open " ++ path ++ ": " ++ Step.openFault fault)
          | .ok text => do
              Step.setStatus 0
              runLines fuel isTest { rest := text.toList }
              return (← get).status
      | "exec", command :: words => do
          let status ← runNamed fuel isTest false [] command words
          Step.setStatus status
          throw Stop.exit
      | _, _ => return 0

def callFunction : Nat → Bool → Command → List String → Step Nat
  | 0, _, _, _ => throw Stop.exit
  | fuel + 1, isTest, body, words => do
      let before ← get
      set { before with parameters := words, hidden := some [], loops := 0 }
      let result ← Step.observe (runCommand fuel isTest body)
      modify fun machine =>
        let restored := (machine.hidden.getD []).foldl
          (fun machine entry => machine.assign entry.1 entry.2) machine
        { restored with
          parameters := before.parameters, hidden := before.hidden, loops := before.loops }
      match result with
      | .ok _ => return (← get).status
      | .error .back => return (← get).status
      | .error stop => throw stop

/-- Carries out a program, or a command that carries out others. -/
def runOther : Nat → Bool → String → List String → Step Nat
  | 0, _, _, _ => throw Stop.exit
  | fuel + 1, isTest, name, words => do
      match name, words with
      | "command", "-v" :: command :: _ =>
          match describe (← get) command with
          | some text => do
              Step.print (text ++ "\n")
              return 0
          | none => return missingCode
      | "command", "--" :: command :: words => runNamed fuel isTest false [] command words
      | "command", command :: words => runNamed fuel isTest false [] command words
      | "command", [] => return 0
      | "type", names => tellKinds names
      | _, _ =>
          match programName name, words with
          | "sh", words => runScriptCall fuel words
          | "xargs", words => do
              let machine ← get
              set (machine.leave 0 "")
              let given := (Piece.fields " \t\n" (Piece.ofText false (machine.held 0))).map (·.text)
              match words ++ given with
              | command :: words => runNamed fuel isTest false [] command words
              | [] => return 0
          | program, words =>
              if program != name && program = "echo" then
                Step.print (echoProgramText words)
                return 0
              else
                match Program.named? program words, Builtin.named? program words with
                | some work, _ => runProgram work
                | none, some command =>
                    if program != name then Builtin.carryOut program command
                    else reportMissing name
                | none, none => reportMissing name

/-- Carries out another script. -/
def runScriptCall : Nat → List String → Step Nat
  | 0, _ => throw Stop.exit
  | fuel + 1, words => do
      match scriptCall? {} false words with
      | none => do
          Step.report "Illegal option"
          return 2
      | some call =>
          match call.text? (← get).folder with
          | none => modify call.refuse
          | some text =>
              Step.isolated do
                modify call.start
                runWhole fuel text
          return (← get).status

/-- Carries out the lines of a script from a cursor. -/
def runLines : Nat → Bool → Cursor → Step Unit
  | 0, _, _ => throw Stop.exit
  | fuel + 1, isTest, cursor => do
      match nextLine cursor with
      | .error fault => do
          modify fun machine => { machine with line := fault.line }
          Step.fail fault.message
      | .ok none => return
      | .ok (some (command, next)) => do
          runCommand fuel isTest command
          runLines fuel isTest next

/-- Carries out a whole script with what it has kept for its end. -/
def runWhole : Nat → String → Step Unit
  | 0, _ => throw Stop.exit
  | fuel + 1, text => do
      let result ← Step.observe (runLines fuel false { rest := text.toList })
      match result with
      | .error (.signal number) => throw (Stop.signal number)
      | _ =>
          if let some action := (← get).atEnd then
            let status := (← get).status
            modify fun machine => { machine with atEnd := none, builtin := none }
            let result ← Step.observe (runLines fuel false { rest := action.toList })
            if let .ok _ := result then Step.setStatus status

end

/-- How deep a script is carried out. -/
def greatestDepth : Nat := 20000

/-- What a script leaves behind: its code, and what it has printed and reported. -/
structure ScriptResult where
  code : Int
  output : String
  errors : String
  workspace : Workspace

/-- Carries out the script that words ask for, in the working directory of a workspace. -/
def run (workspace : Workspace) (words : List String) : ScriptResult :=
  let machine : Machine :=
    { name := "sh", parameters := [], environment := [], folder := { workspace, names := [] } }
  let (result, machine) : Except Stop Unit × Machine :=
    match scriptCall? {} false (words.map spelled) with
    | none => (.ok (), { machine with status := 2 })
    | some call =>
        match call.text? machine.folder with
        | none => (.ok (), call.refuse machine)
        | some text => (runWhole greatestDepth text).run.run (call.start machine)
  let code : Int :=
    match result with
    | .error (.signal number) => -number
    | _ => machine.status
  { code, output := (machine.buffers[1]?).getD "", errors := (machine.buffers[2]?).getD ""
    workspace := machine.folder.workspace }

end WireSchema.Script
