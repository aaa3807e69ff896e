import Flowplan.Graph.Order
import Flowplan.Registry.Basic

namespace Flowplan

structure Issue where
  field : String
  message : String
deriving DecidableEq

inductive Defect
  | duplicateId (id : String)
  | unknownType (id kind : String)
  | unknownSource (id : String)
  | unknownTarget (id : String)
  | cycle
  | unknownReference (id input target : String)
  | noEntry
  | unknownHandler (id : String)
  | sameModuleId (first second moduleId : String)
deriving DecidableEq

namespace Defect

def field : Defect → String
  | .duplicateId _ => "nodes"
  | .unknownType id _ => s!"nodes[{id}].type"
  | .unknownSource _ => "edges"
  | .unknownTarget _ => "edges"
  | .cycle => "edges"
  | .unknownReference id input _ => s!"nodes[{id}].inputMapping.{input}"
  | .noEntry => "nodes"
  | .unknownHandler _ => "onError"
  | .sameModuleId _ _ _ => "nodes"

def message : Defect → String
  | .duplicateId id => s!"Duplicate node ID: \"{id}\""
  | .unknownType _ kind => s!"Unknown node type: \"{kind}\""
  | .unknownSource id => s!"Edge references unknown source node: \"{id}\""
  | .unknownTarget id => s!"Edge references unknown target node: \"{id}\""
  | .cycle => "Workflow contains a cycle"
  | .unknownReference _ _ target => s!"References unknown node: \"{target}\""
  | .noEntry => "No entry node found (all nodes have incoming edges)"
  | .unknownHandler id => s!"onError references unknown node: \"{id}\""
  | .sameModuleId first second moduleId =>
    s!"Node IDs \"{first}\" and \"{second}\" both map to module ID \"{moduleId}\""

def issue (defect : Defect) : Issue := ⟨defect.field, defect.message⟩

def summary (issues : List Issue) : String :=
  let details := "; ".intercalate (issues.map fun issue => s!"{issue.field}: {issue.message}")
  if details == "" then "Invalid DAG" else s!"Invalid DAG: {details}"

end Defect

namespace Graph

def repeatedIds : List String → List String → List String
  | _, [] => []
  | seen, id :: rest =>
    if seen.contains id then id :: repeatedIds seen rest else repeatedIds (id :: seen) rest

def unknownTypes (registry : Registry) (graph : Graph) : List Defect :=
  (graph.nodes.filter fun node => !registry.isKnown node.kind).map fun node =>
    .unknownType node.id node.kind

def looseEnds (graph : Graph) : List Defect :=
  graph.edges.flatMap fun edge =>
    (if graph.ids.contains edge.source then [] else [.unknownSource edge.source])
      ++ if graph.ids.contains edge.target then [] else [.unknownTarget edge.target]

def brokenReferences (graph : Graph) (node : Node) : List Defect :=
  node.inputs.filterMap fun (input, value) =>
    match value with
    | .str text =>
      if Reference.isReference value && !Reference.isFlowInput value
          && !graph.ids.contains (Reference.target text) then
        some (.unknownReference node.id input (Reference.target text))
      else none
    | _ => none

def lacksEntry (graph : Graph) : Bool :=
  !graph.nodes.isEmpty && graph.nodes.all fun node => graph.edges.any (·.target == node.id)

def unknownHandler (graph : Graph) : List Defect :=
  match graph.onError with
  | some id => if graph.ids.contains id then [] else [.unknownHandler id]
  | none => []

/-- Different ids with one module id, each reported beside the first id that has it. -/
def clashes : List String → List String → List Defect
  | _, [] => []
  | seen, id :: rest =>
    if seen.contains id then clashes seen rest
    else
      match seen.find? fun other => ModuleId.ofId other == ModuleId.ofId id with
      | some other => .sameModuleId other id (ModuleId.ofId id) :: clashes (seen ++ [id]) rest
      | none => clashes (seen ++ [id]) rest

def defects (registry : Registry) (graph : Graph) : List Defect :=
  (repeatedIds [] graph.ids).map .duplicateId
    ++ graph.unknownTypes registry
    ++ graph.looseEnds
    ++ (if hasCycle graph.nodes graph.edges then [.cycle] else [])
    ++ graph.nodes.flatMap graph.brokenReferences
    ++ (if graph.lacksEntry then [.noEntry] else [])
    ++ graph.unknownHandler
    ++ clashes [] graph.ids

def isValid (registry : Registry) (graph : Graph) : Bool := (graph.defects registry).isEmpty

end Graph

end Flowplan
