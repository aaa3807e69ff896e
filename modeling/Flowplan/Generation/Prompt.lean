import Flowplan.Generation.Catalog
import Flowplan.Generation.Tool
import Flowplan.Graph.Defect

namespace Flowplan.Prompt

def formatSection : String :=
  "\n".intercalate [
    "## DAG Format",
    "",
    "A workflow DAG has:",
    "- **nodes**: steps. Each node: \x7b id (kebab-case string), type (string), config? "
      ++ "(object), inputMapping? (object), retries? (number) \x7d",
    "- **edges**: \x7b from, to, condition? \x7d pairs defining execution order.",
    "- **onError**: optional node id that runs when any step fails.",
    "",
    "## Recommended Node Type: http.call",
    "",
    "Use \"http.call\" for service calls. Config:",
    "- service: service name, resolved to the \x7bSERVICE\x7d_SERVICE_URL variable",
    "- method: GET, POST, PUT or DELETE",
    "- path: endpoint path",
    "- body (optional): static request body",
    "- query (optional): query parameters",
    "",
    "## Flow Control Node Types",
    "",
    "- \"condition\": branching. Outgoing edges WITH a condition expression start a branch; "
      ++ "targets fed only from that branch are nested inside it. Outgoing edges WITHOUT a "
      ++ "condition run after the branch completes.",
    "- \"wait\": delay. config: \x7b seconds: number \x7d",
    "- \"for-each\": loop. config: \x7b iterator: JS expression, parallel?: boolean, "
      ++ "skipFailures?: boolean \x7d",
    "",
    "## Input Mapping ($ref syntax)",
    "",
    "- \"$ref:flow_input.fieldName\": a run input",
    "- \"$ref:node-id.output.fieldName\": a field of an earlier node's output",
    "- \"$ref:node-id.output\": the whole output of an earlier node",
    "",
    "Dot-notation keys build nested objects:",
    "- \"body.campaignId\": \"$ref:flow_input.campaignId\" gives body: \x7b campaignId: ... \x7d",
    "- \"body.metadata.source\": \"$ref:flow_input.source\" gives body: \x7b metadata: \x7b "
      ++ "source: ... \x7d \x7d",
    "",
    "Static body fields go in config.body; dynamic overrides go in inputMapping.",
    "",
    "## Special Config Keys (not passed to the script)",
    "",
    "- retries (number): retry attempts, default 3. Use 0 for non-idempotent steps (email sends, "
      ++ "SMS, queue pops).",
    "- stopAfterIf (string): JS expression over \"result\"; ends the whole flow gracefully when "
      ++ "true, without onError.",
    "- skipIf (string): JS expression over \"results.<module_id>\"; skips only this step when "
      ++ "true."]

def rulesSection : String :=
  "\n".intercalate [
    "## Rules",
    "",
    "1. Node ids are unique, kebab-case and descriptive (\"fetch-lead\", \"send-email\")",
    "2. Edges must not form a cycle",
    "3. Every $ref names an existing node id or flow_input",
    "4. retries: 0 for non-idempotent operations",
    "5. Use onError for cleanup on failure (e.g. an end-run step that reports failure)",
    "6. Use \"condition\" nodes for branching; skipIf only skips a single step",
    "7. appId and serviceEnvs are injected from flow_input automatically; do not map them",
    "8. Campaign workflows follow the chassis gate-check -> start-run -> ... -> end-run, with "
      ++ "onError -> end-run-error",
    "",
    "## Example",
    "",
    "```json",
    "\x7b",
    "  \"nodes\": [",
    "    \x7b\"id\": \"gate-check\", \"type\": \"http.call\",",
    "     \"config\": \x7b\"service\": \"campaign\", \"method\": \"POST\", \"path\": "
      ++ "\"/internal/gate-check\", \"stopAfterIf\": \"result.allowed == false\"\x7d,",
    "     \"inputMapping\": \x7b\"body.campaignId\": \"$ref:flow_input.campaignId\"\x7d\x7d,",
    "    \x7b\"id\": \"fetch-lead\", \"type\": \"http.call\",",
    "     \"config\": \x7b\"service\": \"lead\", \"method\": \"POST\", \"path\": "
      ++ "\"/buffer/next\"\x7d,",
    "     \"inputMapping\": \x7b\"body.campaignId\": \"$ref:flow_input.campaignId\"\x7d, "
      ++ "\"retries\": 0\x7d,",
    "    \x7b\"id\": \"check-lead\", \"type\": \"condition\"\x7d,",
    "    \x7b\"id\": \"email-generate\", \"type\": \"http.call\",",
    "     \"config\": \x7b\"service\": \"content-generation\", \"method\": \"POST\", \"path\": "
      ++ "\"/generate\"\x7d,",
    "     \"inputMapping\": \x7b\"body.lead\": \"$ref:fetch-lead.output.lead\"\x7d, \"retries\": "
      ++ "0\x7d,",
    "    \x7b\"id\": \"end-run\", \"type\": \"http.call\",",
    "     \"config\": \x7b\"service\": \"campaign\", \"method\": \"POST\", \"path\": "
      ++ "\"/internal/end-run\", \"body\": \x7b\"success\": true\x7d\x7d,",
    "     \"inputMapping\": \x7b\"body.campaignId\": \"$ref:flow_input.campaignId\"\x7d\x7d,",
    "    \x7b\"id\": \"end-run-error\", \"type\": \"http.call\",",
    "     \"config\": \x7b\"service\": \"campaign\", \"method\": \"POST\", \"path\": "
      ++ "\"/internal/end-run\", \"body\": \x7b\"success\": false\x7d\x7d,",
    "     \"inputMapping\": \x7b\"body.campaignId\": \"$ref:flow_input.campaignId\"\x7d\x7d",
    "  ],",
    "  \"edges\": [",
    "    \x7b\"from\": \"gate-check\", \"to\": \"fetch-lead\"\x7d,",
    "    \x7b\"from\": \"fetch-lead\", \"to\": \"check-lead\"\x7d,",
    "    \x7b\"from\": \"check-lead\", \"to\": \"email-generate\", \"condition\": "
      ++ "\"results.fetch_lead.found == true\"\x7d,",
    "    \x7b\"from\": \"check-lead\", \"to\": \"end-run\"\x7d",
    "  ],",
    "  \"onError\": \"end-run-error\"",
    "\x7d",
    "```"]

def discoverySection : String :=
  "\n".intercalate [
    "## Service Discovery (MANDATORY)",
    "",
    "You can query a live API registry. Before generating the workflow:",
    "1. Call list_services to see the available services and their endpoints",
    "2. Call get_service_endpoints for EACH service the workflow uses, to get exact paths, "
      ++ "request bodies and response shapes",
    "3. Only then call create_workflow",
    "",
    "Never guess endpoint paths or body fields. If a needed endpoint does not exist, adapt the "
      ++ "workflow to real endpoints."]

def dimension (name : String) (words : List String) : String :=
  s!"- {name}: " ++ " | ".intercalate (words.map Text.quoted)

def dimensionsSection : String :=
  "\n".intercalate ["## Dimension Enums (pick from these)", "",
    dimension "category" (Category.all.map (·.1)), dimension "channel" (Channel.all.map (·.1)),
    dimension "audienceType" (Audience.all.map (·.1))]

def system (wanted : List String) (discovery : Bool) (style : Option String) (registry : Registry) :
    String :=
  let serviceSection :=
    if discovery then discoverySection
    else "## Available Services\n\n" ++ Catalog.servicesText wanted
  let styleSection := match style.filter (· != "") with
    | some directive => ["## Style Directive\n\n" ++ directive]
    | none => []
  "\n\n".intercalate (
    ["You are a workflow architect that generates valid DAG (Directed Acyclic Graph) workflows.",
      formatSection, dimensionsSection, serviceSection,
      "## All Registered Node Types\n\n" ++ Catalog.stepTypesText registry
        ++ "\n\nPrefer \"http.call\" over legacy named types.",
      rulesSection]
    ++ styleSection
    ++ ["Generate a single workflow DAG that fulfills the user's description. "
      ++ s!"Use the {Tool.createWorkflow} tool to return the result."])

def retry (description : String) (issues : List Issue) : String :=
  let list := "\n".intercalate (issues.map fun issue => s!"- {issue.field}: {issue.message}")
  "The DAG you generated was invalid. Fix these errors and try again:\n\n"
    ++ list ++ "\n\n" ++ s!"Original request: {description}"

end Flowplan.Prompt
