import WireSchema.Text.Cut

namespace WireSchema.CommandLine

/-!
Reading the words of a command line.

A word that begins with a dash sets options, every other word is an argument, and after a double
dash all words are arguments.  The value of an option follows it: in the same word or as the next
one, whatever that looks like.  Options of one letter may share a word.  A word that is no option of
the command makes the whole command line unusable.
-/

structure OptionSpec where
  name : String
  /-- The word of the option, with two dashes. -/
  long : String
  /-- The letter of the option. -/
  letter : Option Char := none
  takesValue : Bool
deriving DecidableEq, Repr

/-- The options and arguments that words set, in their order. -/
structure Words where
  options : List (String × Option String)
  arguments : List String
deriving DecidableEq, Repr

/-- Why the words cannot be used. -/
inductive UsageFault where
  | unusable
  /-- A word that is given as a path can be that of no file. -/
  | noPath
deriving DecidableEq, Repr

/-- What a word does: it sets options, and may leave one that takes the next word as its value. -/
structure WordReading where
  options : List (String × Option String)
  awaiting : Option String
deriving DecidableEq, Repr

def readLetters (specs : List OptionSpec) : List Char → Except UsageFault WordReading
  | [] => .ok ⟨[], none⟩
  | letter :: rest =>
      match specs.find? (·.letter == some letter) with
      | none => .error .unusable
      | some spec =>
          if !spec.takesValue then
            (readLetters specs rest).map fun reading =>
              { reading with options := (spec.name, none) :: reading.options }
          else if rest.isEmpty then .ok ⟨[], some spec.name⟩
          else .ok ⟨[(spec.name, some (String.ofList rest))], none⟩

def splitWord (word : String) : String × Option String :=
  match Text.breakAt? ['='] word.toList with
  | some (long, value) => (String.ofList long, some (String.ofList value))
  | none => (word, none)

/-- Reads a word that begins with a dash. -/
def readOption (specs : List OptionSpec) (word : String) : Except UsageFault WordReading :=
  let (long, value) := splitWord word
  match specs.find? (·.long == long) with
  | some spec =>
      match spec.takesValue, value with
      | true, some value => .ok ⟨[(spec.name, some value)], none⟩
      | true, none => .ok ⟨[], some spec.name⟩
      | false, none => .ok ⟨[(spec.name, none)], none⟩
      | false, some _ => .error .unusable
  | none =>
      if Text.startsWith word "--" then .error .unusable
      else readLetters specs (word.toList.drop 1)

/-- Adds options before those of later words. -/
def Words.after (options : List (String × Option String)) (words : Words) : Words :=
  { words with options := options ++ words.options }

/-- Reads the words of a command.  When options may not follow arguments, everything from the first
argument on is an argument. -/
def readWords (specs : List OptionSpec) (mixed : Bool) : List String → Except UsageFault Words
  | [] => .ok ⟨[], []⟩
  | word :: words =>
      if word = "--" then .ok ⟨[], words⟩
      else if Text.startsWith word "-" && word != "-" then
        match readOption specs word with
        | .error fault => .error fault
        | .ok ⟨options, none⟩ => (readWords specs mixed words).map (Words.after options)
        | .ok ⟨options, some name⟩ =>
            match words with
            | [] => .error .unusable
            | value :: words =>
                (readWords specs mixed words).map (Words.after (options ++ [(name, some value)]))
      else if mixed then
        (readWords specs mixed words).map fun read =>
          { read with arguments := word :: read.arguments }
      else .ok ⟨[], word :: words⟩

namespace Words

def value? (words : Words) (name : String) : Option String :=
  ((words.options.filter (·.1 == name)).getLast?).bind (·.2)

def values (words : Words) (name : String) : List String :=
  (words.options.filter (·.1 == name)).filterMap (·.2)

/-- Whether an option is set. -/
def has (words : Words) (name : String) : Bool :=
  words.options.any (·.1 == name)

end Words

end WireSchema.CommandLine
