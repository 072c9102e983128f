import WireSchema.Failure
import WireSchema.FilePlan.FileName
import WireSchema.Schema.Names

namespace WireSchema.FilePlan

/-!
Groups of declarations.

A strategy gives every declaration a key, and the declarations of one key make a group, which has
one schema file.  Groups stand in the order in which their keys first occur among composite types,
enumerations and services.  Two groups must not have one file.  A key may be of any kind until a
file is named by it; then it must be a text.
-/

/-! ## Keys -/

/-- A declaration that is put into a group.  Functions are none, since they are
methods of types or stand by themselves. -/
inductive Declaration where
  | composite (item : Composite)
  | enum (item : EnumType)
  | service (item : ServiceContract)
deriving Repr

namespace Declaration

def sourceFile : Declaration → Value
  | .composite item => item.sourceFile
  | .enum item => item.sourceFile
  | .service item => item.sourceFile

def package : Declaration → Value
  | .composite item => item.package
  | .enum item => item.package
  | .service item => item.package

/-- The namespace that a declaration states by itself. -/
def namespaceName : Declaration → Value
  | .composite item => item.namespaceName
  | .enum item => item.namespaceName
  | .service item => item.namespaceName

def annotations : Declaration → List Annotation
  | .composite item => item.annotations
  | .enum item => item.annotations
  | .service item => item.annotations

/-- The namespace of a declaration: from an annotation, or else as it is
declared.  All declarations without one share a default one. -/
def namespaceKey (declaration : Declaration) : Asked Value := do
  match ← firstString? ["namespace"] "name" declaration.annotations with
  | some name => return .text name
  | none => return declaration.namespaceName.orElse (.text "default")

/-- The key of a declaration.  One without a key of its own has that of the
schema, so that every declaration has a group. -/
def key (strategy : Option Strategy) (schemaKey : Value) (declaration : Declaration) :
    Asked Value :=
  match strategy with
  | some .follow => .ok (declaration.sourceFile.orElse schemaKey)
  | some .package => .ok (declaration.package.orElse schemaKey)
  | some .namespaces => declaration.namespaceKey
  | _ => .ok schemaKey

end Declaration

/-- The declarations of a model in the order in which they are put into groups. -/
def declarations (model : Model) : List Declaration :=
  model.composites.map .composite ++ model.enums.map .enum ++ model.services.map .service

def keyOf (options : Options) (declaration : Declaration) : Asked Value :=
  declaration.key options.strategy? options.schemaName

/-! ## Files of keys -/

/-- A key with the name and the file of its group. -/
structure KeyedFile where
  key : String
  name : String
  file : String
deriving DecidableEq, Repr, Inhabited

/-- The key of a group, which must be a text once the pattern of file names is
known to be one.  The order of these demands decides which failure is
reported. -/
def keyedFile (pattern key name : Value) : Asked KeyedFile := do
  let _ ← readPattern pattern
  let nameText ← name.admitText
  return { key := ← key.admitText, name := nameText, file := ← schemaFileName pattern nameText }

/-- Adds a key unless it is known.  Its file must not be that of another key: the
two groups would overwrite each other. -/
def addKeyFile (options : Options) (known : List KeyedFile) (key : Value) :
    Outcome (List KeyedFile) := do
  let key ← Failure.liftShape key.askKey
  if known.any fun keyed => Value.text keyed.key == key then return known
  else
    let name ← Failure.liftShape (groupName options.strategy? key)
    let keyed ← Failure.liftShape (keyedFile options.outputFileName key name)
    match known.find? (·.file == keyed.file) with
    | some owner => throw (Failure.generation (.sharedFile owner.key keyed.key keyed.file))
    | none => return known ++ [keyed]

def addDeclaration (options : Options) (known : List KeyedFile) (declaration : Declaration) :
    Outcome (List KeyedFile) := do
  addKeyFile options known (← Failure.liftShape (keyOf options declaration))

/-- The keys of declarations, in the order of their first occurrence, with their
files.  The groups come in this order too, so that it shows in the output. -/
def keyFiles (options : Options) (entries : List Declaration) : Outcome (List KeyedFile) :=
  entries.foldlM (addDeclaration options) []

/-! ## Groups -/

/-- The declarations of one key.  They are kept by kind, since a file has its
messages before its enumerations and these before its services. -/
structure FileGroup where
  key : String
  file : String
  name : String
  composites : List Composite
  enums : List EnumType
  services : List ServiceContract
deriving Repr, Inhabited

def hasKey (options : Options) (key : String) (declaration : Declaration) : Bool :=
  match keyOf options declaration with
  | .ok own => own == Value.text key
  | .error _ => false

def groupOf (options : Options) (model : Model) (keyed : KeyedFile) : FileGroup :=
  { key := keyed.key
    file := keyed.file
    name := keyed.name
    composites := model.composites.filter fun item => hasKey options keyed.key (.composite item)
    enums := model.enums.filter fun item => hasKey options keyed.key (.enum item)
    services := model.services.filter fun item => hasKey options keyed.key (.service item) }

/-- The file of a model without declarations: it is named by the schema, whatever the strategy. -/
def schemaKeyFile (options : Options) : Asked KeyedFile :=
  keyedFile options.outputFileName options.schemaName options.schemaName

/-- The groups of a model.  One without declarations has a single empty group, so
that a run writes the files of an empty schema for it. -/
def partition (options : Options) (model : Model) : Outcome (List FileGroup) := do
  let keyed ← keyFiles options (declarations model)
  if keyed.isEmpty then
    return [groupOf options {} (← Failure.liftShape (schemaKeyFile options))]
  else return keyed.map (groupOf options model)

/-! ## Types and their files -/

/-- The names under which a composite type may be referred to: its own and those of its
messages. -/
def compositeTypeNames (composite : Composite) : Asked (List Value) := do
  let own ← composite.name.askKey
  let messages ← composite.messageNames
  return own :: (← Value.askKeys messages)

/-- The names under which an enumeration may be referred to.  A field may name it
as it is declared or as it is written. -/
def enumTypeNames (enum : EnumType) : Asked (List Value) := do
  let own ← enum.name.askKey
  return [own, ← (← enum.schemaName).askKey]

/-- The names under which a group's declarations may be referred to: their own
and those of the messages and enumerations that are made of them. -/
def groupTypeNames (group : FileGroup) : Asked (List Value) := do
  let composites ← group.composites.mapM compositeTypeNames
  let enums ← group.enums.mapM enumTypeNames
  return composites.flatten ++ enums.flatten

/-- The file that declares each type; of several groups with one type the first
counts.  The groups are told apart by their order alone, as references do not say
in which of them their type is. -/
def typeFiles (groups : List FileGroup) : Asked (List (Value × String)) :=
  groups.foldlM
    (fun known group => do
      return (← groupTypeNames group).foldl (fun known name => addKey name group.file known) known)
    []

end WireSchema.FilePlan
