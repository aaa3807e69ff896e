import Flowplan.Engine.Call
import Flowplan.Failure
import Flowplan.Settings.Basic

namespace Flowplan

structure Endpoint where
  method : String
  path : String
  inWorkspace : Bool
  body : Option Json

def Endpoint.line (endpoint : Endpoint) : String := s!"{endpoint.method} {endpoint.path}"

namespace Flow

def optionalFields (flow : Flow) : Entries Json :=
  (flow.description.map fun text => ("description", Json.str text)).toList
    ++ (flow.schema.map (("schema", ·))).toList

def creation (flow : Flow) : Json :=
  .obj ([("path", .str flow.path), ("summary", .ofText? flow.summary), ("value", flow.value)]
    ++ flow.optionalFields)

def revision (flow : Flow) : Json :=
  .obj ([("path", .str flow.path), ("value", flow.value)]
    ++ (flow.summary.map fun text => ("summary", Json.str text)).toList ++ flow.optionalFields)

end Flow

def EngineSettings.connect (settings : EngineSettings) : Except Http.Fault Http.Client :=
  Http.Client.connect (Settings.trimSlashes settings.baseUrl ++ "/api") ("authorization",
    s!"Bearer {settings.token}")

namespace EngineCall

def endpoint : EngineCall → Endpoint
  | .createFlow flow => ⟨"POST", "/flows/create", true, some flow.creation⟩
  | .updateFlow flow => ⟨"POST", s!"/flows/update/{flow.path}", true, some flow.revision⟩
  | .getFlow path => ⟨"GET", s!"/flows/get/{path}", true, none⟩
  | .deleteFlow path => ⟨"DELETE", s!"/flows/delete/{path}", true, none⟩
  | .runFlow path args => ⟨"POST", s!"/jobs/run/f/{path}", true, some args⟩
  | .getJob id => ⟨"GET", s!"/jobs_u/get/{id}", true, none⟩
  | .cancelJob id reason =>
    ⟨"POST", s!"/jobs/queue/cancel/{id}", true, some (.obj [("reason", .ofText? reason)])⟩
  | .checkHealth => ⟨"GET", "/version", false, none⟩

def request (client : Http.Client) (workspace : String) (call : EngineCall) :
    Except Failure Http.Request :=
  let endpoint := call.endpoint
  let path := if endpoint.inWorkspace then s!"/w/{workspace}{endpoint.path}" else endpoint.path
  (client.request endpoint.method path endpoint.body).mapError .exchange

def payload (call : EngineCall) (outcome : Http.Outcome) : Except Failure Json :=
  match outcome with
  | .error (.broken reason) => .error (.engine (.unreachable call.endpoint.line reason))
  | .error (.fault fault) => .error (.exchange fault)
  | .ok response =>
    if response.isError then
      match response.text with
      | .ok text =>
        .error (.engine (.refused call.endpoint.line response.status response.reason text))
      | .error fault => .error (.exchange fault)
    else if response.saysJson then response.json.mapError .exchange
    else (response.text.map .str).mapError .exchange

def jobName (payload : Json) : String :=
  String.ofList (Text.trim (· == '"') (Text.trim Text.isBlank payload.display.toList))

def readJob (id : String) (payload : Json) : Except Failure Job :=
  match payload with
  | .obj _ => (Job.read payload).toExcept.mapError (.badRecord Job.recordName)
  | payload => .error (.engine (.notJob id payload))

def reply (call : EngineCall) (outcome : Http.Outcome) : Except Failure call.Reply :=
  match call with
  | .createFlow flow => (payload (.createFlow flow) outcome).map fun _ => flow.path
  | .updateFlow flow => (payload (.updateFlow flow) outcome).map fun _ => ()
  | .getFlow path => payload (.getFlow path) outcome
  | .deleteFlow path => (payload (.deleteFlow path) outcome).map fun _ => ()
  | .runFlow path args => (payload (.runFlow path args) outcome).map jobName
  | .getJob id => (payload (.getJob id) outcome).bind (readJob id)
  | .cancelJob id reason => (payload (.cancelJob id reason) outcome).map fun _ => ()
  | .checkHealth =>
    match payload .checkHealth outcome with
    | .ok _ => .ok true
    | .error (.engine _) => .ok false
    | .error failure => .error failure

def perform (client : Http.Client) (workspace : String) (call : EngineCall)
    (outcome : Http.Outcome) : Except Failure call.Reply := do
  let request ← call.request client workspace
  call.reply (request.receive outcome)

def successLog : EngineCall → List LogEntry
  | .createFlow flow => [entry "Created flow" flow.path]
  | .updateFlow flow => [entry "Updated flow" flow.path]
  | .deleteFlow path => [entry "Deleted flow" path]
  | _ => []
where
  entry (message path : String) : LogEntry :=
    ⟨.info, "ENGINE_CLIENT", message, [("path", .str path)], none⟩

end EngineCall

end Flowplan
