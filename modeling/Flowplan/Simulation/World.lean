import Flowplan.Run.Service

namespace Flowplan.Simulation

structure World where
  store : Store := {}
  now : Time
  environment : Environment := []
  ids : Nat := 0
  jobs : Nat := 0
  scripts : Entries Json := []
  refused : List String := []
  blindLookups : Nat := 0
  blindNames : Nat := 0
  listTrouble : Option String := none
  polling : Bool := false
  lastCopy : Option Run := none
  calls : List EngineCall := []
  logs : List LogEntry := []

namespace World

def freshId (world : World) : String := s!"id-{world.ids + 1}"

def spendId (world : World) : World := { world with ids := world.ids + 1 }

def log (world : World) (entry : LogEntry) : World := { world with logs := world.logs ++ [entry] }

def insertWorkflow (world : World) (draft : Draft) : Except Failure Workflow × World :=
  let spent := if draft.id.isSome then world else world.spendId
  match world.store.insertWorkflow draft world.freshId world.now with
  | .ok (workflow, store) => (.ok workflow, { spent with store })
  | .error failure => (.error failure, spent)

def updateWorkflow (world : World) (id : String) (change : Workflow → Workflow) :
    Except Failure Workflow × World :=
  match world.store.updateWorkflow id change world.now with
  | .ok (workflow, store) => (.ok workflow, { world with store })
  | .error failure => (.error failure, world)

def insertRun (world : World) (workflowId : Option String) (inputs : Json) (jobId : Option String) :
    Run × World :=
  let run := Run.queued world.freshId workflowId inputs jobId world.now
  (run, { world.spendId with store := world.store.insertRun run })

def saveRun (world : World) (copy : Run) : Option Store.Written × World :=
  let (written, store) := world.store.saveRun copy
  (written, { world with store, lastCopy := some copy })

def answer (callEngine : (call : EngineCall) → World → Except Failure call.Reply × World) :
    (action : Action) → World → action.Answer × World
  | .findWorkflow id, world => (world.store.liveWorkflow? id, world)
  | .findSignature app signature, world =>
    match world.blindLookups with
    | 0 => (world.store.bySignature? app signature true, world)
    | left + 1 => (none, { world with blindLookups := left })
  | .listNames app, world =>
    match world.blindNames with
    | 0 => (world.store.usedNames app, world)
    | left + 1 => ([], { world with blindNames := left })
  | .insertWorkflow draft, world => world.insertWorkflow draft
  | .updateWorkflow id change, world => world.updateWorkflow id change
  | .insertRun workflowId inputs jobId, world => world.insertRun workflowId inputs jobId
  | .findRun id, world => (world.store.run? id, world)
  | .listActive, world =>
    match world.listTrouble with
    | some message => (.error (.crash message), world)
    | none => (.ok (world.store.runsIn RunStatus.active), world)
  | .saveRun copy, world => world.saveRun copy
  | .engine call, world => callEngine call world
  | .readClock, world => (world.now, world)
  | .readServices, world => (world.environment.services, world)
  | .report entry, world => ((), world.log entry)
  | .beginPoll, world => (!world.polling, { world with polling := true })
  | .endPoll, world => ((), { world with polling := false })

def noEngine (call : EngineCall) (world : World) : Except Failure call.Reply × World :=
  (.error (.engine (.unreachable call.name "no engine")), world)

/-- Somebody cancels a run while the engine is busy. The copy that is written does not count as the
last one. -/
def cancelAside (world : World) (id : String) : Except Failure Unit × World :=
  let (outcome, after) := (RunService.cancel false id).run.run (answer noEngine) world
  (outcome.map fun _ => (), { after with lastCopy := world.lastCopy })

def jobState : Nat → Json → World → Except Failure Job × World
  | 0, _, world => (.error (.crash "a job that never ends"), world)
  | depth + 1, script, world =>
    match script.field? "$error", script.field? "$crash", script.field? "$cancel" with
    | some message, _, _ =>
      let status := match script.field? "status" with
        | some (.int status) => some status
        | _ => none
      (.error (.engine (.reported message.display status)), world)
    | none, some message, _ => (.error (.crash message.display), world)
    | none, none, some id =>
      match world.cancelAside id.display with
      | (.ok _, world) => jobState depth ((script.field? "job").getD .null) world
      | (.error failure, world) => (.error failure, world)
    | none, none, none => ((Job.read script).toExcept.mapError (.badRecord Job.recordName), world)

def runningJob (id : String) : Json := .obj [("id", .str id), ("running", .bool true)]

def perform : (call : EngineCall) → World → Except Failure call.Reply × World
  | .createFlow flow, world => (.ok flow.path, world)
  | .updateFlow _, world => (.ok (), world)
  | .getFlow _, world => (.ok .null, world)
  | .deleteFlow _, world => (.ok (), world)
  | .runFlow _ _, world => (.ok s!"job-{world.jobs + 1}", { world with jobs := world.jobs + 1 })
  | .getJob id, world =>
    let script := (world.scripts.lookup id).getD (runningJob id)
    jobState (script.depth + 1) script world
  | .cancelJob _ _, world => (.ok (), world)
  | .checkHealth, world => (.ok true, world)

def callEngine (call : EngineCall) (world : World) : Except Failure call.Reply × World :=
  let world := { world with calls := world.calls ++ [call] }
  if world.refused.contains call.name then
    (.error (.engine (.reported s!"{call.name} failed" (some 500))), world)
  else perform call world

def handle : (action : Action) → World → action.Answer × World := answer callEngine

end World

end Flowplan.Simulation
