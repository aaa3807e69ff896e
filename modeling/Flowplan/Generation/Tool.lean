import Flowplan.Generation.Candidate

namespace Flowplan

structure Tool where
  name : String
  description : String
  schema : Json
deriving DecidableEq

namespace Tool

def createWorkflow : String := "create_workflow"

def listServices : String := "list_services"

def getServiceEndpoints : String := "get_service_endpoints"

def typed (kind : String) : Json := .obj [("type", .str kind)]

def described (kind description : String) : Json :=
  .obj [("type", .str kind), ("description", .str description)]

def enumerated (words : List String) (description : String) : Json :=
  .obj [("type", .str "string"), ("enum", .arr (words.map .str)), ("description", .str description)]

def objectSchema (properties : Entries Json) (required : List String) : Json :=
  .obj [("type", .str "object"), ("properties", .obj properties),
    ("required", .arr (required.map .str))]

def arraySchema (item : Json) : Json := .obj [("type", .str "array"), ("items", item)]

def nodeSchema : Json :=
  objectSchema [("id", typed "string"), ("type", typed "string"), ("config", typed "object"),
    ("inputMapping", typed "object"), ("retries", typed "number")] ["id", "type"]

def edgeSchema : Json :=
  objectSchema [("from", typed "string"), ("to", typed "string"), ("condition", typed "string")]
    ["from", "to"]

def graphSchema : Json :=
  objectSchema [("nodes", arraySchema nodeSchema), ("edges", arraySchema edgeSchema),
    ("onError", typed "string")] ["nodes", "edges"]

def candidateSchema : Json :=
  objectSchema [
    ("category", enumerated (Category.all.map (·.1)) "Workflow category"),
    ("channel", enumerated (Channel.all.map (·.1)) "Distribution channel"),
    ("audienceType", enumerated (Audience.all.map (·.1)) "Audience type"),
    ("description",
      described "string" "Human-readable description of what this workflow does (1-2 sentences)"),
    ("dag", graphSchema)] ["category", "channel", "audienceType", "description", "dag"]

def creation : Tool :=
  ⟨createWorkflow, "Create a valid DAG workflow with dimensions based on the user's description",
    candidateSchema⟩

def listing : Tool where
  name := listServices
  description :=
    "List all available microservices in the platform. Returns service name, description "
    ++ "and endpoint summaries. Call this first to learn which services exist."
  schema := objectSchema [] []

def endpoints : Tool where
  name := getServiceEndpoints
  description := "Get the full OpenAPI specification of one service: endpoint paths, request and "
    ++ "response schemas, required fields. Call this for every service the workflow uses."
  schema := objectSchema
    [("service", described "string" "The service name (e.g. 'lead', 'campaign', 'brand')")]
      ["service"]

def offered (discovery : Bool) : List Tool :=
  if discovery then [listing, endpoints, creation] else [creation]

end Tool

end Flowplan
