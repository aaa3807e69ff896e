import Flowplan.Intake.Reading

namespace Flowplan

open Intake

structure Job where
  id : Option String
  running : Bool
  success : Option Bool
  result : Json
  canceled : Option Bool
  canceledReason : Option String
  startedAt : Option String
  extra : Entries Json
deriving DecidableEq

namespace Job

def knownNames : List String :=
  ["id", "running", "success", "result", "canceled", "canceled_reason", "started_at"]

def recordName : String := "EngineJob"

/-- A job as the engine states it; one that does not say so is not running. -/
def read : Json → Reading Job :=
  record recordName fun fields =>
    Job.mk
      <$> defaulted fields "id" none (optional text)
      <*> defaulted fields "running" false boolean
      <*> defaulted fields "success" none (optional boolean)
      <*> defaulted fields "result" .null anything
      <*> defaulted fields "canceled" none (optional boolean)
      <*> defaulted fields "canceled_reason" none (optional text)
      <*> defaulted fields "started_at" none (optional text)
      <*> .good (fields.filter fun (name, _) => !knownNames.contains name)

def flagJson (value : Option Bool) : Json :=
  match value with
  | some b => .bool b
  | none => .null

def write (job : Job) : Json :=
  .obj [("id", .ofText? job.id), ("running", .bool job.running), ("success", flagJson job.success),
    ("result", job.result), ("canceled", flagJson job.canceled),
    ("canceled_reason", .ofText? job.canceledReason), ("started_at", .ofText? job.startedAt),
    ("extra", .obj job.extra)]

end Job

structure Flow where
  path : String
  summary : Option String
  value : Json
  description : Option String
  schema : Option Json
deriving DecidableEq

inductive EngineCall
  | createFlow (flow : Flow)
  | updateFlow (flow : Flow)
  | getFlow (path : String)
  | deleteFlow (path : String)
  | runFlow (path : String) (args : Json)
  | getJob (id : String)
  | cancelJob (id : String) (reason : Option String)
  | checkHealth
deriving DecidableEq

def EngineCall.name : EngineCall → String
  | .createFlow _ => "create_flow"
  | .updateFlow _ => "update_flow"
  | .getFlow _ => "get_flow"
  | .deleteFlow _ => "delete_flow"
  | .runFlow _ _ => "run_flow"
  | .getJob _ => "get_job"
  | .cancelJob _ _ => "cancel_job"
  | .checkHealth => "health_check"

def EngineCall.Reply : EngineCall → Type
  | .createFlow _ => String
  | .updateFlow _ | .deleteFlow _ | .cancelJob _ _ => Unit
  | .getFlow _ => Json
  | .runFlow _ _ => String
  | .getJob _ => Job
  | .checkHealth => Bool

end Flowplan
