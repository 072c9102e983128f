import WireSchema.Stub.ModuleText

namespace WireSchema.Stub

/-!
The modules of services.

The adapter serves a program's service to callers of the schema, the client calls a service of the
schema with values of the program, the bridge gives a batch service the signatures of streams, and
the registration puts adapters into a server.  Values cross by the conversions of the module of
types where there are any.
-/

/-! ## Calls -/

/-- A value that passes through a conversion of the module of types; an empty name stands for no
conversion. -/
def converted (conversion : String → Conversion) (snake : String) (value : List Part) : List Part :=
  if snake = "" then value
  else [.text "convert.", .call (conversion snake), .text "("] ++ value ++ [.text ")"]

/-- A stream of which every item passes through a conversion of the module of types; without a
conversion another expression stands for it. -/
def convertedStream (conversion : String → Conversion) (snake stream otherwise : String) :
    List Part :=
  if snake = "" then [.text otherwise]
  else
    [.text "(convert.", .call (conversion snake), .text ("(item) for item in " ++ stream ++ ")")]

/-- A line that begins with a word and goes on with a value. -/
def wordLine (word : String) (value : List Part) : Line :=
  .code (.text word :: value)

/-! ## Adapter -/

namespace AdapterModule

/-- The argument of a method of the program; none when it takes no data.  A
stream of messages becomes a stream of values, which are converted one by
one. -/
def argument? (method : MethodInfo) : Option (List Part) :=
  if !method.hasInput then none
  else if method.clientStreaming then
    some (convertedStream .fromSchema method.inputHelper "request_iterator" "request_iterator")
  else some (converted .fromSchema method.inputHelper [.text "request"])

def call (method : MethodInfo) : List Part :=
  let arguments :=
    (argument? method).toList ++ (if method.hasContext then [[.text "context"]] else [])
  [.text ("self.service." ++ method.sourceName.display ++ "(")]
    ++ [Part.text ", "].intercalate arguments ++ [.text ")"]

def bodyLines (method : MethodInfo) : List Line :=
  if method.serverStreaming then
    [wordLine "        for item in " (call method ++ [.text ":"]),
     wordLine "            yield " (converted .toSchema method.outputHelper [.text "item"])]
  else if !method.hasOutput then
    [wordLine "        " (call method), wordLine "        return " [.emptyMessage]]
  else [wordLine "        return " (converted .toSchema method.outputHelper (call method))]

def methodLines (method : MethodInfo) : List Line :=
  let input := if method.clientStreaming then "request_iterator" else "request"
  [.blank, .plain ("    def " ++ method.name.display ++ "(self, " ++ input ++ ", context):")]
    ++ bodyLines method

def serviceLines (data : StubData) (service : ServiceInfo) : List Line :=
  let servicer := data.grpcAlias.display ++ "." ++ service.name.display ++ "Servicer"
  definition
    ([.plain ("class " ++ service.name.display ++ "Adapter(" ++ servicer ++ "):"),
      .plain ("    \"\"\"Serve the domain " ++ service.sourceName.display
        ++ " over gRPC, converting values at the boundary.\"\"\""),
      .blank, .plain "    def __init__(self, service):", .plain "        self.service = service"]
      ++ service.methods.flatMap methodLines)

def lines (data : StubData) : List Line :=
  headLines data ++ serviceImportLines data ++ data.services.flatMap (serviceLines data)

end AdapterModule

/-! ## Client -/

namespace ClientModule

/-- The parameter of a method; none when it takes no data. -/
def parameter? (method : MethodInfo) : Option String :=
  if !method.hasInput then none
  else if method.clientStreaming then some "requests"
  else some "request"

def message (method : MethodInfo) : List Part :=
  if !method.hasInput then [.emptyMessage]
  else if method.clientStreaming then
    convertedStream .toSchema method.inputHelper "requests" "iter(requests)"
  else converted .toSchema method.inputHelper [.text "request"]

def call (method : MethodInfo) : List Part :=
  [.text ("self.stub." ++ method.name.display ++ "(")] ++ message method ++ [.text ", **kwargs)"]

def bodyLines (method : MethodInfo) : List Line :=
  if method.serverStreaming then
    [wordLine "        for item in " (call method ++ [.text ":"]),
     wordLine "            yield " (converted .fromSchema method.outputHelper [.text "item"])]
  else if !method.hasOutput then [wordLine "        " (call method)]
  else [wordLine "        return " (converted .fromSchema method.outputHelper (call method))]

def methodLines (method : MethodInfo) : List Line :=
  let parameters := ["self"] ++ (parameter? method).toList ++ ["**kwargs"]
  [.blank,
   .plain ("    def " ++ method.sourceName.display ++ "(" ++ callArguments parameters ++ "):")]
    ++ bodyLines method

def serviceLines (data : StubData) (service : ServiceInfo) : List Line :=
  definition
    ([.plain ("class " ++ service.name.display ++ "Client:"),
      .plain ("    \"\"\"Call " ++ service.name.display ++ " with domain types.\"\"\""), .blank,
      .plain "    def __init__(self, channel):",
      .plain ("        self.stub = " ++ data.grpcAlias.display ++ "." ++ service.name.display
        ++ "Stub(channel)")]
      ++ service.methods.flatMap methodLines)

def lines (data : StubData) : List Line :=
  headLines data ++ serviceImportLines data ++ data.services.flatMap (serviceLines data)

end ClientModule

/-! ## Bridge -/

namespace BridgeModule

/-- The parameters of a method, each with the argument that is passed on for it. -/
def parameters (method : MethodInfo) : List (String × String) :=
  (if method.clientStreaming then [("requests", "list(requests)")]
    else if method.hasInput then [("request", "request")]
    else [])
    ++ (if method.hasContext then [("context", "context")] else [])

def methodLines (method : MethodInfo) : List Line :=
  let passed := parameters method
  let name := method.sourceName.display
  [.blank, .plain ("    def " ++ name ++ "(" ++ callArguments ("self" :: passed.map (·.1)) ++ "):"),
   .plain ((if method.serverStreaming then "        yield from " else "        return ")
     ++ "self.service." ++ name ++ "(" ++ callArguments (passed.map (·.2)) ++ ")")]

def serviceLines (service : ServiceInfo) : List Line :=
  definition
    ([.plain ("class " ++ service.name.display ++ "Bridge:"),
      .plain ("    \"\"\"Expose a batch-style " ++ service.sourceName.display
        ++ " through streaming method signatures."),
      .blank, .plain "    Unary methods are passed through unchanged.", .plain "    \"\"\"", .blank,
      .plain "    def __init__(self, service):", .plain "        self.service = service", .blank,
      .plain "    def __getattr__(self, name):",
      .plain "        return getattr(self.service, name)"]
      ++ service.streamingMethods.flatMap methodLines)

/-- The lines of the module.  Services without streaming methods have no part in it. -/
def lines (data : StubData) : List Line :=
  headLines data
    ++ (data.services.filter fun service => !service.streamingMethods.isEmpty).flatMap serviceLines

end BridgeModule

/-! ## Registration -/

namespace RegistrationModule

/-- The mark around code in a comment. -/
def codeMark : String := String.ofList (List.replicate 2 (Char.ofNat 0x60))

/-- A service with the name by which it is registered. -/
structure Registered where
  service : ServiceInfo
  snake : String

def registered (service : ServiceInfo) : Asked Registered := do
  return { service, snake := ← writtenName service.snake }

def serviceLines (data : StubData) (entry : Registered) : List Line :=
  let name := entry.service.name.display
  let adapter := "adapters." ++ name ++ "Adapter"
  definition
    [.plain ("def register_" ++ entry.snake ++ "(server, service) -> " ++ adapter ++ ":"),
     .plain ("    \"\"\"Wrap " ++ codeMark ++ "service" ++ codeMark
       ++ " in its adapter and add it to " ++ codeMark ++ "server" ++ codeMark ++ ".\"\"\""),
     .plain ("    adapter = " ++ adapter ++ "(service)"),
     .plain ("    " ++ data.grpcAlias.display ++ ".add_" ++ name
       ++ "Servicer_to_server(adapter, server)"),
     .plain "    return adapter"]

/-- The entry of a service in the table of all services. -/
def entryLine (entry : Registered) : Line :=
  .plain ("        \"" ++ entry.snake ++ "\": register_" ++ entry.snake ++ ",")

/-- The lines that register services by name; none without services. -/
def allLines (entries : List Registered) : List Line :=
  match entries with
  | [] => []
  | first :: _ =>
      definition
        ([.plain "def register_all_services(server, **services) -> None:",
          .plain ("    \"\"\"Register every service passed by keyword (" ++ codeMark ++ first.snake
            ++ "=..." ++ codeMark ++ ").\"\"\""),
          .plain "    registrars = \x7b"]
          ++ entries.map entryLine
          ++ [.plain "    \x7d", .plain "    for name, service in services.items():",
              .plain "        if name not in registrars:",
              .plain "            raise ValueError(f\"Unknown service: \x7bname\x7d\")",
              .plain "        registrars[name](server, service)"])

def lines (data : StubData) : Asked (List Line) := do
  let entries ← data.services.mapM registered
  return headLines data
    ++ [.blank, serviceImport data, .blank, .load (.sibling .adapter "adapters")]
    ++ entries.flatMap (serviceLines data) ++ allLines entries

end RegistrationModule

end WireSchema.Stub
