import Flowplan.Deployment
import Flowplan.Run.Document
import Flowplan.Run.Poller
import Flowplan.Simulation.World
import Flowplan.Store.Document

namespace Flowplan.Simulation

inductive Step
  | deploy (request : DeployRequest) (blindLookups blindNames : Nat)
  | delete (workflow : String)
  | insertWorkflow (columns : Entries Json)
  | updateWorkflow (workflow : String) (columns : Entries Json)
  | getWorkflow (workflow : String) (includeDeleted : Bool)
  | findSignature (app signature : String) (includeDeleted : Bool)
  | listNames (app : String)
  | createRun (workflow : String) (inputs : Entries Json)
  | storeRun (workflow : Option String) (inputs : Json) (job : Option String)
  | getRun (run : String) (refreshed : Bool)
  | cancelRun (run : String)
  | keepStored (name run : String)
  | keep (name : String) (copy : RunCopy)
  | refreshKept (name : String)
  | saveKept (name : String) (fields : Entries Json)
  | listRuns (statuses : List RunStatus)
  | scriptJob (job : String) (script : Json)
  | refuse (calls : List String)
  | poll (ticks : Nat) (busy : Bool)
  | pollBlindly (trouble : String) (busy : Bool)
  | pollLoop (ticks : Nat)

inductive Result
  | nothing
  | workflow (found : Option Workflow)
  | deployed (deployed : Deployed)
  | names (names : List String)
  | run (run : Run)
  | shown (document : Json)
  | ids (ids : List String)
  | counts (changed : List Nat)
  | count (changed : Nat)
  | loop (changed : List Nat)

structure Cast where
  hasEngine : Bool
  registry : Registry

structure Stage where
  world : World
  kept : Entries RunCopy := []

namespace Stage

def play {α : Type} (stage : Stage) (routine : Routine α) : α × Stage :=
  let (value, world) := routine.run World.handle stage.world
  (value, { stage with world })

def perform {α : Type} (stage : Stage) (procedure : Procedure α) (result : α → Result) :
    Except Failure Result × Stage :=
  let (outcome, stage) := stage.play procedure.run
  (outcome.map result, stage)

def setPolling (stage : Stage) (polling : Bool) : Stage :=
  { stage with world := { stage.world with polling } }

def playTicks : Nat → Stage → List Nat × Stage
  | 0, stage => ([], stage)
  | ticks + 1, stage =>
    let (changed, stage) := stage.play Poller.tick
    let (others, stage) := playTicks ticks stage
    (changed :: others, stage)

/-- Ticks that start at the same time: all of them have made their first
request before the first one makes its second. -/
def playTogether : Nat → Stage → List Nat × Stage
  | 0, stage => ([], stage)
  | others + 1, stage =>
    match Poller.tick with
    | .done changed =>
      let (rest, stage) := stage.playTicks others
      (changed :: rest, stage)
    | .ask action next =>
      let (answer, world) := World.handle action stage.world
      let (rest, stage) := playTicks others { stage with world }
      let (changed, stage) := stage.play (next answer)
      (changed :: rest, stage)

def kept? (stage : Stage) (name : String) : Except Failure RunCopy :=
  match stage.kept.lookup name with
  | some copy => .ok copy
  | none => .error (.noRecord name)

def keep (stage : Stage) (name : String) (copy : RunCopy) : Stage :=
  { stage with kept := stage.kept.put name copy }

def refresh (stage : Stage) (cast : Cast) (name : String) (copy : RunCopy) :
    Except Failure Result × Stage :=
  match copy.run with
  | .error failure => (.error failure, stage)
  | .ok run =>
    let cleared := { stage with world := { stage.world with lastCopy := none } }
    let (outcome, stage) := cleared.perform (RunService.refresh cast.hasEngine run) .run
    match stage.world.lastCopy with
    | some written => (outcome, stage.keep name (copy.follow written))
    | none => (outcome.bind fun _ => copy.write.map .shown, stage)

/-- Writes a copy. One without a status cannot be written over an active run. -/
def save (stage : Stage) (copy : RunCopy) : Except Failure Result × Stage :=
  match copy.run with
  | .ok run => stage.perform (RunService.save run) .run
  | .error failure =>
    let failure := match stage.world.store.run? copy.id.display with
      | none => .noRun copy.id.display
      | some stored =>
        if copy.status == .null && !stored.status.isTerminal then .constraint else failure
    (.error failure, stage)

end Stage

def Step.take (cast : Cast) (stage : Stage) : Step → Except Failure Result × Stage
  | .deploy request blindLookups blindNames =>
    let stage := { stage with world := { stage.world with blindLookups, blindNames } }
    let (outcome, stage) :=
      stage.perform (Deployer.deploy ⟨cast.hasEngine, cast.registry⟩ request) .deployed
    (outcome, { stage with world := { stage.world with blindLookups := 0, blindNames := 0 } })
  | .delete workflow =>
    stage.perform (Deployer.delete ⟨cast.hasEngine, cast.registry⟩ workflow) fun deleted =>
      .workflow (some deleted)
  | .insertWorkflow columns =>
    match Draft.ofFields columns with
    | .error failure => (.error failure, stage)
    | .ok draft =>
      let (outcome, world) := stage.world.insertWorkflow draft
      (outcome.map fun stored => .shown (stored.writeStated columns), { stage with world })
  | .updateWorkflow id columns =>
    match stage.world.store.workflow? id with
    | none => (.error (.noRecord id), stage)
    | some found =>
      match found.assignAll columns with
      | .error failure => (.error failure, stage)
      | .ok changed =>
        let (outcome, world) := stage.world.updateWorkflow id fun _ => changed
        (outcome.map fun stored => .shown (stored.writeStated columns), { stage with world })
  | .getWorkflow id includeDeleted =>
    let store := stage.world.store
    (.ok (.workflow (if includeDeleted then store.workflow? id else store.liveWorkflow? id)), stage)
  | .findSignature app signature includeDeleted =>
    (.ok (.workflow (stage.world.store.bySignature? app signature includeDeleted)), stage)
  | .listNames app => (.ok (.names (stage.world.store.usedNames app)), stage)
  | .createRun workflow inputs =>
    stage.perform (RunService.create cast.hasEngine workflow inputs) .run
  | .storeRun workflow inputs job =>
    let (run, world) := stage.world.insertRun workflow inputs job
    (.ok (.run run), { stage with world })
  | .getRun id refreshed => stage.perform (RunService.get cast.hasEngine id refreshed) .run
  | .cancelRun id => stage.perform (RunService.cancel cast.hasEngine id) .run
  | .keepStored name id =>
    match stage.world.store.run? id with
    | some run => (.ok (.run run), stage.keep name (.ofRun run))
    | none => (.error (.noRun id), stage)
  | .keep name copy => (copy.write.map .shown, stage.keep name copy)
  | .refreshKept name =>
    match stage.kept? name with
    | .error failure => (.error failure, stage)
    | .ok copy => stage.refresh cast name copy
  | .saveKept name fields =>
    match stage.kept? name with
    | .error failure => (.error failure, stage)
    | .ok copy =>
      let (outcome, copy) := copy.set fields
      let stage := stage.keep name copy
      match outcome with
      | .error failure => (.error failure, stage)
      | .ok () => stage.save copy
  | .listRuns statuses => (.ok (.ids ((stage.world.store.runsIn statuses).map Run.id)), stage)
  | .scriptJob job script =>
    (.ok .nothing,
      { stage with world := { stage.world with scripts := stage.world.scripts.put job script } })
  | .refuse calls => (.ok .nothing, { stage with world := { stage.world with refused := calls } })
  | .poll ticks busy =>
    let (changed, stage) := (stage.setPolling busy).playTogether ticks
    (.ok (.counts changed), stage.setPolling false)
  | .pollBlindly trouble busy =>
    let stage := stage.setPolling busy
    let troubled := { stage with world := { stage.world with listTrouble := some trouble } }
    let (changed, stage) := troubled.play Poller.tick
    (.ok (.count changed),
      { stage with world := { stage.world with listTrouble := none, polling := false } })
  | .pollLoop ticks =>
    let stage := { stage with world := stage.world.log (Poller.starting "0.0") }
    let (changed, stage) := stage.playTicks ticks
    (.ok (.loop changed), { stage with world := stage.world.log Poller.stopped })

structure Observation where
  result : Except Failure Result
  calls : List EngineCall
  logs : List LogEntry
  runs : List Run

/-- Takes the steps of a session, a second after each other. A step
that makes no sense fails and changes nothing. -/
def takeAll (cast : Cast) : Stage → List (Except Failure Step) → List Observation × Stage
  | stage, [] => ([], stage)
  | stage, step :: rest =>
    let stage := { stage with world := { stage.world with calls := [], logs := [] } }
    let (result, stage) := match step with
      | .ok step => step.take cast stage
      | .error failure => (.error failure, stage)
    let seen : Observation := ⟨result, stage.world.calls, stage.world.logs, stage.world.store.runs⟩
    let (others, stage) :=
      takeAll cast { stage with world := { stage.world with now := stage.world.now.after 1 } } rest
    (seen :: others, stage)

end Flowplan.Simulation
