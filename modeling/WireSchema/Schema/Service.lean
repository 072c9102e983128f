import WireSchema.Schema.FieldRules

namespace WireSchema

/-!
Services of the schema.

A contract or a composite type that is annotated as a service becomes a service.  The methods of a
contract are its own; those of a composite type are the annotated functions that have it as their
receiver.  Input and output come from annotations, and else from the first parameter and the first
result that carry data, or are the empty message when there is none.
-/

/-- A method of a service as the schema declares it.  The declared method is kept
for the outputs that call it and not only describe it. -/
structure Rpc where
  name : Value
  inputType : Value
  outputType : Value
  clientStreaming : Bool := false
  serverStreaming : Bool := false
  description : Value
  method : Method
deriving Repr, Inhabited

structure Service where
  name : Value
  /-- The name of the contract or composite type that it comes from. -/
  sourceName : Value
  rpcs : List Rpc
  description : Value
  fromComposite : Bool
deriving Repr, Inhabited

/-- A type in front of which streaming is marked. -/
def streamed (isStream : Bool) (type : Value) : String :=
  if isStream then "stream " ++ type.display else type.display

namespace Rpc

/-- Whether input or output is a stream. -/
def isStreaming (rpc : Rpc) : Bool := rpc.clientStreaming || rpc.serverStreaming

/-- The declaration of a method. -/
def line (rpc : Rpc) : String :=
  "rpc " ++ rpc.name.display ++ "(" ++ streamed rpc.clientStreaming rpc.inputType ++ ") returns ("
    ++ streamed rpc.serverStreaming rpc.outputType ++ ");"

/-- The value of a parameter of an annotation when it counts as given, and else another value. -/
def statedOr (note : Annotation) (param : String) (other : Value) : Value :=
  (Value.text (note.string param)).orElse other

def override (rpc : Rpc) (note : Annotation) : Rpc :=
  { rpc with
    name := statedOr note "name" rpc.name
    inputType := statedOr note "input" rpc.inputType
    outputType := statedOr note "output" rpc.outputType
    clientStreaming := rpc.clientStreaming || note.flag "client_streaming"
    serverStreaming := rpc.serverStreaming || note.flag "server_streaming"
    description := statedOr note "description" rpc.description }

end Rpc

/-! ## Parameters and results -/

/-- Types of parameters that carry the circumstances of a call and no data. -/
def callContextTypes : List String := ["context.Context", "grpc.ServicerContext"]

/-- Types of results that report failure and carry no data. -/
def failureTypes : List String := ["error", "Exception"]

/-- Whether a parameter carries the circumstances of a call. -/
def Parameter.isCallContext (parameter : Parameter) : Bool :=
  callContextTypes.contains parameter.type.unwrap.qualifiedName

namespace Method

def dataParams (method : Method) : List Parameter :=
  method.params.filter (!·.isCallContext)

def dataResults (method : Method) : List Parameter :=
  method.results.filter fun result => !failureTypes.contains result.type.unwrap.qualifiedName

/-- The schema type of the first of some parameters, the empty message when
there is none.  Further parameters are not carried over, since a method of the
schema has one message each way. -/
def firstType (table : TypeTable) (parameters : List Parameter) : Asked Value :=
  match parameters with
  | [] => .ok (.text emptyType)
  | first :: _ => table.schemaType first.type

/-- A method as the schema declares it.  Every `rpc` annotation overrides what
was found before it, the declared types included. -/
def toRpc (table : TypeTable) (method : Method) : Asked Rpc := do
  let inputType ← firstType table method.dataParams
  let outputType ← firstType table method.dataResults
  let plain : Rpc :=
    { name := method.name, inputType, outputType, description := method.doc, method }
  return (← annotationsNamed ["rpc"] method.annotations).foldl Rpc.override plain

end Method

/-! ## Services of a unit -/

/-- Whether a function is a method of a composite type's service. -/
def Composite.receives (composite : Composite) (function : ModelFunction) : Asked Bool :=
  if function.receiver == composite.name then isAnnotated ["rpc"] function.toMethod.annotations
  else .ok false

/-- The functions of a model that are methods of a composite type's service. -/
def Model.receiverMethods (model : Model) (composite : Composite) : Asked (List Method) := do
  return (← keepWhere composite.receives model.functions).map (·.toMethod)

/-- The service that annotations make of a declaration with methods.  It is made
alike of a contract and of a composite type with functions. -/
def serviceOf (table : TypeTable) (sourceName : Value) (annotations : List Annotation)
    (methods : List Method) (doc : Value) (fromComposite : Bool) : Asked Service := do
  let name ← renamed ["service"] annotations sourceName
  let rpcs ← methods.mapM (·.toRpc table)
  let description ← descriptionOf annotations doc
  return { name, sourceName, rpcs, description, fromComposite }

def ServiceContract.toService (table : TypeTable) (contract : ServiceContract) : Asked Service :=
  serviceOf table contract.name contract.annotations contract.methods contract.doc false

def Composite.toService (model : Model) (table : TypeTable) (composite : Composite) :
    Asked Service := do
  serviceOf table composite.name composite.annotations (← model.receiverMethods composite)
    composite.doc true

/-- The service that a declaration makes, if its annotations ask for one. -/
def serviceIfAsked (annotations : List Annotation) (service : Asked Service) :
    Asked (List Service) := do
  if ← isService annotations then return [← service] else return []

/-- The services of some contracts and composite types: those of contracts
first.  Whether a declaration is left out is not asked here, only whether it is
to be a service. -/
def SchemaContext.services (context : SchemaContext) (contracts : List ServiceContract)
    (composites : List Composite) : Asked (List Service) := do
  let ofContracts ← contracts.mapM fun contract =>
    serviceIfAsked contract.annotations (contract.toService context.types)
  let ofComposites ← composites.mapM fun composite =>
    serviceIfAsked composite.annotations (composite.toService context.model context.types)
  return ofContracts.flatten ++ ofComposites.flatten

end WireSchema
