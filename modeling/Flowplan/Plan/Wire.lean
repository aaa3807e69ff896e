import Flowplan.Plan.Basic

namespace Flowplan

def schemaDialect : String := "https://json-schema.org/draft/2020-12/schema"

def fieldIf {α : Type} (name : String) (value : Option α) (write : α → Json) :
    List (String × Json) :=
  match value with
  | some a => [(name, write a)]
  | none => []

namespace Param

def wire : Param → Json
  | .static value => .obj [("type", .str "static"), ("value", value)]
  | .expr text => .obj [("type", .str "javascript"), ("expr", .str text)]

def render : Param → List Char
  | .static value => value.write .compact 0
  | .expr text => text.toList

end Param

def Retry.wire (retry : Retry) : Json :=
  .obj [("constant", .obj [("attempts", .int retry.attempts), ("seconds", .int retry.seconds)])]

namespace Plan

mutual

def wireModules : List Module → List Json
  | [] => []
  | m :: rest => wireModule m :: wireModules rest
termination_by structural ms => ms

def wireBody : Body → List (String × Json)
  | .script path params =>
    [("value", .obj [("type", .str "script"), ("path", .str path),
      ("input_transforms", .obj (params.map fun (name, p) => (name, p.wire)))])]
  | .pause seconds =>
    [("value", .obj [("type", .str "rawscript"), ("content", .str ""), ("language", .str "bun")]),
      ("sleep", .obj [("type", .str "static"), ("value", seconds)])]
  | .branch cases =>
    [("value", .obj [("type", .str "branchone"), ("branches", .arr (wireCases cases)),
        ("default", .arr [])])]
  | .loop iterator body parallel skipFailures =>
    [("value", .obj [("type", .str "forloopflow"),
      ("iterator", .obj [("type", .str "javascript"), ("expr", .str iterator)]),
      ("modules", .arr (wireModules body)), ("skip_failures", .bool skipFailures),
      ("parallel", .bool parallel)])]
termination_by structural b => b

def wireCases : List Case → List Json
  | [] => []
  | c :: rest => wireCase c :: wireCases rest
termination_by structural cs => cs

def wireCase : Case → Json
  | .mk expr body =>
    .obj [("summary", .str expr), ("expr", .str expr), ("modules", .arr (wireModules body))]
termination_by structural c => c

def wireModule : Module → Json
  | .mk id body directives =>
    .obj (("id", .str id) :: fieldIf "summary" directives.summary .str
      ++ wireBody body
      ++ fieldIf "retry" directives.retry Retry.wire
      ++ fieldIf "stop_after_if" directives.stopAfter
        (fun expr => .obj [("expr", .str expr), ("skip_if_stopped", .bool true)])
      ++ fieldIf "skip_if" directives.skipIf (fun expr => .obj [("expr", .str expr)]))
termination_by structural m => m

end

def schema (plan : Plan) : Json :=
  .obj [("$schema", .str schemaDialect), ("type", .str "object"), ("properties", .obj plan.inputs),
    ("required", .arr [])]

def flowValue (plan : Plan) : Json :=
  .obj ([("modules", .arr (wireModules plan.modules)), ("same_worker", .bool plan.sameWorker)]
    ++ fieldIf "failure_module" plan.failure wireModule)

def wire (plan : Plan) : Json :=
  .obj [("summary", .str plan.summary), ("value", plan.flowValue), ("schema", plan.schema)]

end Plan

end Flowplan
