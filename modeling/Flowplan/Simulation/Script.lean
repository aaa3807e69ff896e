import Flowplan.Simulation.Session

namespace Flowplan.Simulation

namespace Script

def field (step : Json) (name : String) : Json := (step.field? name).getD .null

def text? (step : Json) (name : String) : Option String :=
  match field step name with
  | .str text => some text
  | _ => none

def text (step : Json) (name : String) : String := (text? step name).getD ""

def flag (step : Json) (name : String) : Bool := (field step name).truthy

def raised (step : Json) (name : String) : Bool := (step.field? name).all Json.truthy

def fields (step : Json) (name : String) : Entries Json :=
  match field step name with
  | .obj fields => fields
  | _ => []

def items (step : Json) (name : String) : List Json :=
  match field step name with
  | .arr items => items
  | _ => []

def count (step : Json) (name : String) (usual : Nat) : Nat :=
  match field step name with
  | .int n => n.toNat
  | _ => usual

def deployment (step : Json) (graph : Graph) : DeployRequest where
  app := text step "app"
  graph := graph
  description := text? step "description"
  category := text? step "category"
  channel := text? step "channel"
  audience := text? step "audience_type"
  styleName := text? step "style_name"

end Script

open Script

def Step.read (step : Json) : Except Failure Step := do
  match text step "do" with
  | "deploy" =>
    let graph ← (Graph.read (field step "dag")).toExcept.mapError (Failure.badRecord "DAG")
    return .deploy (deployment step graph) (count step "blind_find_by_signature" 0)
      (count step "blind_used_signature_names" 0)
  | "delete" => return .delete (text step "workflow")
  | "insert_workflow" => return .insertWorkflow (fields step "fields")
  | "update_workflow" => return .updateWorkflow (text step "workflow") (fields step "fields")
  | "get_workflow" => return .getWorkflow (text step "workflow") (flag step "include_deleted")
  | "find_by_signature" =>
    return .findSignature (text step "app") (text step "signature") (flag step "include_deleted")
  | "used_names" => return .listNames (text step "app")
  | "create_run" => return .createRun (text step "workflow") (fields step "inputs")
  | "store_run" => return .storeRun (text? step "workflow") (field step "inputs") (text? step "job")
  | "get_run" => return .getRun (text step "run") (raised step "refresh")
  | "cancel_run" => return .cancelRun (text step "run")
  | "hold" =>
    match field step "fields" with
    | .obj fields => return .keep (text step "as") (← RunCopy.ofFields fields)
    | _ => return .keepStored (text step "as") (text step "run")
  | "refresh_held" => return .refreshKept (text step "as")
  | "save_held" => return .saveKept (text step "as") (fields step "set")
  | "list_runs" =>
    match field step "statuses" with
    | .arr names => return .listRuns (← names.mapM Run.readStatus)
    | _ => return .listRuns RunStatus.active
  | "set_job" => return .scriptJob (text step "job") (field step "value")
  | "fail_on" => return .refuse ((items step "names").filterMap Json.text?)
  | "poll" =>
    let trouble := field step "list_fails"
    if trouble.truthy then return .pollBlindly trouble.display (flag step "busy")
    else return .poll (count step "overlap" 1) (flag step "busy")
  | "poll_loop" => return .pollLoop (count step "ticks" 0)
  | word => throw (.crash s!"Unknown step: {word}")

def runScript (cast : Cast) (environment : Environment) (now : Time) (steps : List Json) :
    List Observation × Stage :=
  takeAll cast { world := { now, environment } } (steps.map Step.read)

end Flowplan.Simulation
