import Flowplan.Http.Exchange
import Flowplan.Intake.Fault
import Flowplan.Log.Trace
import Flowplan.Settings.Basic

namespace Flowplan

def DirectorySettings.connect (settings : DirectorySettings) : Except Http.Fault Http.Client :=
  Http.Client.connect (Settings.trimSlashes settings.baseUrl) ("x-api-key", settings.apiKey)

namespace Directory

inductive Query
  | summary
  | services
  | specification (service : String)
deriving DecidableEq

inductive Trouble
  | unreachable (path reason : String)
  | refused (path : String) (status : Int) (reason body : String)
  | exchange (fault : Http.Fault)
  | notObject (value : Json)
  | notIterable (value : Json)
  | notCountable (value : Json)
deriving DecidableEq

def Trouble.message : Trouble → String
  | .unreachable path reason => s!"api-registry request failed: GET {path}: {reason}"
  | .refused path status reason body =>
    s!"api-registry error: GET {path} -> {status} {reason}: {body}"
  | .exchange fault => fault.message
  | .notObject value => s!"'{Intake.Fault.kindName value}' object has no attribute 'get'"
  | .notIterable value => s!"'{Intake.Fault.kindName value}' object is not iterable"
  | .notCountable value => s!"object of type '{Intake.Fault.kindName value}' has no len()"

namespace Query

def path : Query → String
  | .summary | .services => "/llm-context"
  | .specification service =>
    "/openapi/" ++ String.ofList (Http.escapeAll Http.isPlainChar service.toList)

def request (client : Http.Client) (query : Query) : Except Trouble Http.Request :=
  (client.request "GET" query.path none).mapError .exchange

def payload (query : Query) (outcome : Http.Outcome) : Except Trouble Json :=
  match outcome with
  | .error (.broken reason) => .error (.unreachable query.path reason)
  | .error (.fault fault) => .error (.exchange fault)
  | .ok response =>
    if response.isError then
      match response.text with
      | .ok text => .error (.refused query.path response.status response.reason text)
      | .error fault => .error (.exchange fault)
    else response.json.mapError .exchange

end Query

def get (name : String) : Json → Except Trouble Json
  | .obj fields => .ok ((fields.lookup name).getD .null)
  | value => .error (.notObject value)

def items : Json → Except Trouble (List Json)
  | .arr items => .ok items
  | .obj fields => .ok (fields.map fun (name, _) => .str name)
  | .str text => .ok (text.toList.map fun c => .str c.toString)
  | value => .error (.notIterable value)

def count : Json → Except Trouble Nat
  | .arr items => .ok items.length
  | .obj fields => .ok fields.length
  | .str text => .ok text.length
  | value => .error (.notCountable value)

def firstTrue (values : List Json) (last : Json) : Json := (values.find? Json.truthy).getD last

def endpointLine (endpoint : Json) : Except Trouble Json := do
  let method ← get "method" endpoint
  let path ← get "path" endpoint
  return .str s!"{method.display} {path.display}"

def serviceEntry (service : Json) : Except Trouble Json := do
  let endpoints ← get "endpoints" service
  let endpoints := firstTrue [endpoints] (.arr [])
  let name ← get "service" service
  let description ← get "description" service
  let title ← get "title" service
  let total ← count endpoints
  let lines ← (← items endpoints).mapM endpointLine
  return .obj [("name", name), ("description", firstTrue [description, title] (.str "")),
    ("endpointCount", .int total), ("endpoints", .arr lines)]

def serviceEntries (summary : Json) : Except Trouble (List Json) := do
  match summary with
  | .obj fields => (← items ((fields.lookup "services").getD (.arr []))).mapM serviceEntry
  | value => throw (.notObject value)

def Query.answer (query : Query) (outcome : Http.Outcome) : Except Trouble Json := do
  let value ← query.payload outcome
  match query with
  | .services => return .arr (← serviceEntries value)
  | .summary | .specification _ => return value

def Query.successLog (query : Query) (answer : Json) : List LogEntry :=
  match query, answer with
  | .services, .arr entries =>
    [⟨.debug, "SERVICE_REGISTRY", "Listed services", [("count", .int entries.length)], none⟩]
  | _, _ => []

end Directory

end Flowplan
