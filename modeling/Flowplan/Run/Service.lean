import Flowplan.Run.Procedure

/-!
# Starting, following and cancelling runs

The operations on runs. Each one works on a copy of the stored run; only the
write at its end decides what the store keeps.
-/

namespace Flowplan.RunService

open Procedure

def component : String := "RUN_LIFECYCLE"

def storeComponent : String := "WORKFLOW_STORE"

def cancelReason : String := "Cancelled by user"

def faultData (lead : Entries Json) (fault : EngineFault) : Entries Json :=
  lead ++ [("error", .str fault.message)]

def find (id : String) : Procedure Run := do
  match (← ask (.findRun id) : Option Run) with
  | some run => return run
  | none => throw (.noRun id)

def save (copy : Run) : Procedure Run := do
  match (← ask (.saveRun copy) : Option Store.Written) with
  | none => throw (.noRun copy.id)
  | some written =>
    if !written.landed then
      report .warning storeComponent
        s!"Run already {written.stored.status.name}; dropped update to {copy.status.name}"
          [] (some copy.id)
    return written.stored

def create (hasEngine : Bool) (workflowId : String) (inputs : Entries Json) : Procedure Run := do
  match (← ask (.findWorkflow workflowId) : Option Workflow) with
  | none => throw (.noWorkflow workflowId)
  | some workflow =>
    match workflow.path? with
    | none => throw (.noFlowPath workflow.id)
    | some path =>
      let jobId ← if hasEngine then some <$> start path else stayQueued workflow.id
      let run : Run ← ask (.insertRun (some workflow.id) (.obj inputs) jobId)
      report .info component "Run created" [("job_id", .ofText? jobId)] (some run.id)
      return run
where
  start (path : String) : Procedure String := do
    let services : Environment ← ask .readServices
    let args := inputs.put "serviceEnvs" (.obj (services.mapValues .str))
    match ← tryCall (.runFlow path (.obj args)) with
    | .ok jobId => return jobId
    | .error fault =>
      report .error component "Failed to start flow" (faultData [("flow_path", .str path)] fault)
      throw (.engine fault)
  stayQueued (id : String) : Procedure (Option String) := do
    report .warning component "No engine configured; run stays queued" [("workflow_id", .str id)]
    return none

def refresh (hasEngine : Bool) (run : Run) : Procedure Run := do
  match run.job? with
  | none => return run
  | some jobId =>
    if !hasEngine || run.status.isTerminal then return run
    let job : Job ← call (.getJob jobId)
    let now : Time ← ask .readClock
    match run.observe job now with
    | none => return run
    | some changed =>
      let stored ← save changed
      report .info component s!"Run -> {stored.status.name}" [] (some stored.id)
      return stored

/-- A run after it has been refreshed. What goes wrong at the engine leaves the run as it is. -/
def get (hasEngine : Bool) (id : String) (refreshed : Bool) : Procedure Run := do
  let run ← find id
  if !refreshed then return run
  let outcome : Except Failure Run ← ExceptT.lift (refresh hasEngine run).run
  match outcome with
  | .ok run => return run
  | .error (.engine fault) =>
    report .error component "Failed to poll engine job"
      (faultData [("job_id", .ofText? run.jobId)] fault) (some id)
    return run
  | .error failure => throw failure

def cancel (hasEngine : Bool) (id : String) : Procedure Run := do
  let run ← find id
  if run.status.isTerminal then throw (.finished run.status)
  match run.job?, hasEngine with
  | some jobId, true =>
    match ← tryCall (.cancelJob jobId (some cancelReason)) with
    | .ok _ => pure ()
    | .error fault =>
      report .error component "Failed to cancel engine job"
        (faultData [("job_id", .str jobId)] fault) (some id)
  | _, _ => pure ()
  let now : Time ← ask .readClock
  let cancelled ← run.cancel now
  let stored ← save cancelled
  report .info component "Run cancelled" [] (some id)
  return stored

end Flowplan.RunService
