import Flowplan.Graph.Order
import Flowplan.Log.Trace
import Flowplan.Plan.Params
import Flowplan.Registry.Basic

namespace Flowplan

inductive CompileError
  | noScript (kind : String)
  | endlessRetries
  | undefinedRetries
deriving DecidableEq

def CompileError.message : CompileError → String
  | .noScript kind => s!"No script path for node type: {kind}"
  | .endlessRetries => "cannot convert float infinity to integer"
  | .undefinedRetries => "cannot convert float NaN to integer"

namespace Compile

def defaultRetries : Int := 3

def defaultIterator : String := "flow_input.items"

def controlNames : List String := ["retries", "stopAfterIf", "skipIf"]

def contextParams : Entries String :=
  [("appId", "flow_input.appId"), ("serviceEnvs", "flow_input.serviceEnvs")]

def errorParams : Entries String :=
  [("failedNodeId", "error.failed_step"), ("errorMessage", "error.message")]

def inject (params : Entries Param) (fields : Entries String) : Entries Param :=
  fields.foldl (fun params (name, expr) =>
    if params.has name then params else params.put name (.expr expr)) params

structure Context where
  registry : Registry
  edges : List Edge
  ids : List String
  ordered : List Node

/-- The retries of a step: its own, else a number in its
configuration, cut to an integer, else three. -/
def retries (node : Node) : Except CompileError Int :=
  match node.retries with
  | some n => .ok n
  | none =>
    match node.config.lookup "retries" with
    | some (.int n) => .ok n
    | some (.float x) =>
      match x.truncate with
      | some n => .ok n
      | none => .error (if x.read = .undefined then .undefinedRetries else .endlessRetries)
    | _ => .ok defaultRetries

def controlExpr (ids : List String) (node : Node) (name : String) : Option String :=
  match node.config.lookup name with
  | some (.str expr) => some (Expression.normalize expr ids)
  | _ => none

def scriptParams (node : Node) : Entries Param :=
  let config := node.config.filter fun (name, _) => !controlNames.contains name
  inject (Params.ofStep config node.inputs) contextParams

/-- The module of a step that is neither a branch nor a loop; a native
type without a meaning of its own has none. -/
def stepModule (registry : Registry) (ids : List String) (node : Node) :
    Except CompileError (Option Module) :=
  let id := ModuleId.ofId node.id
  if node.kind == StepType.wait then
    let seconds := (node.config.lookup "seconds").getD (.int 0)
    .ok (some (.mk id (.pause seconds) { summary := some s!"Wait {seconds.display}s" }))
  else
    match registry.scriptPath node.kind with
    | some path => do
      let retries ← retries node
      return some (.mk id (.script path (scriptParams node)) {
        summary := some s!"{node.kind}: {node.id}"
        retry := some (Retry.ofCount retries)
        stopAfter := controlExpr ids node "stopAfterIf"
        skipIf := controlExpr ids node "skipIf" })
    | none => if registry.isNative node.kind then .ok none else .error (.noScript node.kind)

def claimed (c : Context) (node : Node) : List String :=
  if node.kind == StepType.forEach then Scope.loop c.edges c.ordered node.id
  else if node.kind == StepType.condition then
    (Scope.expressions c.edges node.id).flatMap (Scope.branch c.edges c.ordered node.id)
  else []

def unclaimed (c : Context) (scope : List Node) : List Node :=
  let inside := scope.flatMap (claimed c)
  scope.filter fun node => !inside.contains node.id

def within (scope : List Node) (ids : List String) : List Node :=
  scope.filter fun node => ids.contains node.id

def iterator (ids : List String) (node : Node) : String :=
  match node.config.lookup "iterator" with
  | some (.str expr) => Expression.normalize (if expr == "" then defaultIterator else expr) ids
  | _ => Expression.normalize defaultIterator ids

def flag (node : Node) (name : String) : Bool :=
  ((node.config.lookup name).getD (.bool false)).truthy

/-- The modules of a scope, at most `depth` constructs deep. The body of a construct is a smaller
scope, so the number of steps is depth enough. -/
def modules (c : Context) : Nat → List Node → Except CompileError (List Module)
  | 0, _ => .ok []
  | depth + 1, scope => do
    let found ← (unclaimed c scope).mapM fun node => do
      if node.kind == StepType.condition then
        let cases ← (Scope.expressions c.edges node.id).mapM fun expr => do
          let body ← modules c depth (within scope (Scope.branch c.edges c.ordered node.id expr))
          return Case.mk (Expression.normalize expr c.ids) body
        return some (.mk (ModuleId.ofId node.id) (.branch cases) { summary := some "Branch" })
      else if node.kind == StepType.forEach then
        let body ← modules c depth (within scope (Scope.loop c.edges c.ordered node.id))
        return some (.mk (ModuleId.ofId node.id)
          (.loop (iterator c.ids node) body (flag node "parallel") (flag node "skipFailures"))
          { summary := some "For each" })
      else stepModule c.registry c.ids node
    return found.filterMap fun m => m

def failureModule (registry : Registry) (ids : List String) (node : Node) :
    Except CompileError (Option Module) := do
  match ← stepModule registry ids node with
  | some (.mk id (.script path params) directives) =>
    return some (.mk id (.script path (inject params errorParams))
      { directives with summary := some s!"onError: {node.id}" })
  | _ => return none

end Compile

namespace Graph

def handlerId (graph : Graph) : Option String := graph.onError.filter (· != "")

def mainOrder (graph : Graph) : List Node :=
  let ordered := topologicalOrder graph.nodes graph.edges
  match graph.handlerId with
  | some id => ordered.filter (·.id != id)
  | none => ordered

def handler (graph : Graph) : Option Node := graph.handlerId.bind graph.node?

def compileContext (graph : Graph) (registry : Registry) : Compile.Context where
  registry := registry
  edges := graph.edges
  ids := graph.ids
  ordered := graph.mainOrder

def compile (graph : Graph) (registry : Registry) (name : String) : Except CompileError Plan := do
  let main := graph.mainOrder
  let modules ← Compile.modules (graph.compileContext registry) main.length main
  let failure ← match graph.handler with
    | some node => Compile.failureModule registry graph.ids node
    | none => pure none
  return {
    summary := name, modules, inputs := InputSchema.infer graph, failure, sameWorker := false }

def compileLog (graph : Graph) (plan : Plan) : List LogEntry :=
  let component := "PLAN_COMPILER"
  let warning := match graph.handler, plan.failure with
    | some node, none =>
      [{ level := .warning, component,
         message := s!"onError node '{node.id}' is not a script; no failure module emitted" }]
    | _, _ => []
  warning ++ [{
    level := .info, component, message := s!"Compiled '{plan.summary}'"
    data := [("nodes", .int graph.nodes.length), ("top_level_modules", .int plan.modules.length),
      ("has_failure_module", .bool plan.failure.isSome)] }]

end Graph

end Flowplan
