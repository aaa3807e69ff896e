import Flowplan.Graph.Basic
import Flowplan.Intake.Reading

namespace Flowplan

open Intake

namespace Node

def read : Json → Reading Node :=
  record "DAGNode" fun fields =>
    Node.mk
      <$> required fields "id" someText
      <*> required fields "type" someText
      <*> defaulted fields "config" [] object
      <*> defaulted fields "inputMapping" [] object (some "input_mapping")
      <*> defaulted fields "retries" none (optional count)

def write (node : Node) : Json :=
  .obj ([("id", .str node.id), ("type", .str node.kind), ("config", .obj node.config),
      ("inputMapping", .obj node.inputs)]
    ++ (node.retries.map fun n => ("retries", Json.int n)).toList)

end Node

namespace Edge

def read : Json → Reading Edge :=
  record "DAGEdge" fun fields =>
    Edge.mk
      <$> required fields "from" someText (some "from_")
      <*> required fields "to" someText
      <*> defaulted fields "condition" none (optional text)

def write (edge : Edge) : Json :=
  .obj ([("from", .str edge.source), ("to", .str edge.target)]
    ++ (edge.condition.map fun text => ("condition", Json.str text)).toList)

end Edge

namespace Graph

def read : Json → Reading Graph :=
  record "DAG" fun fields =>
    Graph.mk
      <$> required fields "nodes" (someList Node.read)
      <*> defaulted fields "edges" [] (list Edge.read)
      <*> defaulted fields "onError" none (optional text) (some "on_error")

def write (graph : Graph) : Json :=
  .obj ([("nodes", .arr (graph.nodes.map Node.write)), ("edges", .arr (graph.edges.map Edge.write))]
    ++ (graph.onError.map fun id => ("onError", Json.str id)).toList)

end Graph

end Flowplan
