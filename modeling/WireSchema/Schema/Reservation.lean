import WireSchema.Schema.Names

namespace WireSchema

/-!
Reserved numbers and names.

A composite type may reserve field numbers, written as single numbers and ranges, and field names;
an annotation may also reserve the numbers of all fields that are left out.  The schema states
reserved numbers in increasing order with runs written as ranges.
-/

/-! ## Reading numbers -/

/-- The numbers from one to another, both included. -/
def numbersBetween (low high : Int) : List Int :=
  (List.range (high + 1 - low).toNat).map fun (offset : Nat) => low + offset

/-- The two ends of a range: the parts around the word `to`, or else around the
first hyphen.  A negative number alone is taken for a range with nothing in front
of the hyphen. -/
def rangeEnds? (cs : List Char) : Option (List Char × List Char) :=
  (Text.breakAt? [' ', 't', 'o', ' '] cs).or (Text.breakAt? ['-'] cs)

/-- The numbers of an entry: one number or a range.  An entry that is neither has
none, and a range whose ends are out of order has none either. -/
def readReserved (entry : String) : List Int :=
  let cs := Text.trimWhile Text.isBlank entry.toList
  match rangeEnds? cs with
  | some (low, high) =>
      match Text.readInteger? (String.ofList low), Text.readInteger? (String.ofList high) with
      | some first, some last => numbersBetween first last
      | _, _ => []
  | none => (Text.readInteger? (String.ofList cs)).toList

def readReservedNumbers (entries : List String) : List Int :=
  entries.flatMap readReserved

/-! ## Increasing order and runs -/

/-- Puts a number into an increasing list unless it is there. -/
def insertNumber (number : Int) : List Int → List Int
  | [] => [number]
  | first :: others =>
      if number < first then number :: first :: others
      else if number = first then first :: others
      else first :: insertNumber number others

/-- The numbers of a list in strictly increasing order.  A number that occurs
twice is kept once. -/
def increasing (numbers : List Int) : List Int :=
  numbers.foldr insertNumber []

/-- A run of successive numbers. -/
structure NumberRun where
  first : Int
  last : Int
deriving DecidableEq, Repr

/-- The runs of a list that goes on after a run.  A number equal to the last one of the run adds
nothing. -/
def runsFrom (run : NumberRun) : List Int → List NumberRun
  | [] => [run]
  | number :: numbers =>
      if number = run.last then runsFrom run numbers
      else if number = run.last + 1 then runsFrom { run with last := number } numbers
      else run :: runsFrom ⟨number, number⟩ numbers

def runsOf : List Int → List NumberRun
  | [] => []
  | number :: numbers => runsFrom ⟨number, number⟩ numbers

/-- A run in writing: a single number, two numbers, or a range.  A run one end of which cannot be
written has no text. -/
def NumberRun.write (writeNumber : Int → Asked String) (run : NumberRun) : Asked String := do
  let first ← writeNumber run.first
  let last ← writeNumber run.last
  if run.first = run.last then return first
  else if run.last = run.first + 1 then return first ++ ", " ++ last
  else return first ++ " to " ++ last

def compactRanges (writeNumber : Int → Asked String) (numbers : List Int) : Asked (List String) :=
  (runsOf numbers).mapM (NumberRun.write writeNumber)

/-! ## What a composite type reserves -/

/-- Names without those that came before. -/
def distinctNames (names : List String) : List String :=
  names.foldl (fun kept name => if kept.contains name then kept else kept ++ [name]) []

namespace Composite

def reservedAnnotations (composite : Composite) (message : Value) : Asked (List Annotation) := do
  return (← annotationsNamed ["reserved"] composite.annotations).filter (·.appliesTo message true)

def declaredNumbers (composite : Composite) (message : Value) : Asked (List Int) := do
  return (← composite.reservedAnnotations message).flatMap fun note =>
    readReservedNumbers ((note.list? "numbers").getD [])

def declaredNames (composite : Composite) (message : Value) : Asked (List String) := do
  return distinctNames ((← composite.reservedAnnotations message).flatMap fun note =>
    (note.list? "names").getD [])

/-- Whether a message annotation concerns a message: it has its name or none.
One without a name concerns every message of its type. -/
def concernsMessage (message : Value) (note : Annotation) : Bool :=
  let name := note.string "name"
  name == "" || Value.text name == message

/-- Whether a reserving annotation states neither numbers nor names, so that it means all fields
that are left out. -/
def reservesSkipped (note : Annotation) : Bool :=
  !note.has "numbers" && !note.has "names"

/-- Whether the numbers of all fields that are left out of a message are reserved.  The first
message annotation that says so decides; after it the annotations that reserve. -/
def reservesAll (composite : Composite) (message : Value) : Asked Bool := do
  let stated := (← composite.messageAnnotations).find? fun note =>
    concernsMessage message note && note.has "reserved"
  match stated with
  | some note => return note.paramSelects "reserved" message
  | none => return (← composite.reservedAnnotations message).any reservesSkipped

end Composite

end WireSchema
