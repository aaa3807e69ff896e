import Flowplan.Program
import Flowplan.Settings.Environment
import Flowplan.Store.Basic

namespace Flowplan

/-- A request of a procedure. The store answers each of its requests in one step. -/
inductive Action
  | findWorkflow (id : String)
  | findSignature (app signature : String)
  | listNames (app : String)
  | insertWorkflow (draft : Draft)
  | updateWorkflow (id : String) (change : Workflow → Workflow)
  | insertRun (workflowId : Option String) (inputs : Json) (jobId : Option String)
  | findRun (id : String)
  | listActive
  | saveRun (copy : Run)
  | engine (call : EngineCall)
  | readClock
  | readServices
  | report (entry : LogEntry)
  | beginPoll
  | endPoll

def Action.Answer : Action → Type
  | .findWorkflow _ => Option Workflow
  | .findSignature _ _ => Option Workflow
  | .listNames _ => List String
  | .insertWorkflow _ => Except Failure Workflow
  | .updateWorkflow _ _ => Except Failure Workflow
  | .insertRun _ _ _ => Run
  | .findRun _ => Option Run
  | .listActive => Except Failure (List Run)
  | .saveRun _ => Option Store.Written
  | .engine call => Except Failure call.Reply
  | .readClock => Time
  | .readServices => Environment
  | .report _ => Unit
  | .beginPoll => Bool
  | .endPoll => Unit

abbrev Routine := Program Action.Answer

abbrev Procedure := ExceptT Failure Routine

def send (action : Action) : Routine action.Answer := Program.request action

namespace Procedure

variable {α : Type}

def ask (action : Action) : Procedure action.Answer := ExceptT.lift (send action)

def attempt (routine : Routine (Except Failure α)) : Procedure α := ExceptT.mk routine

def call (call : EngineCall) : Procedure call.Reply := attempt (send (.engine call))

def separateFault : Except Failure α → Except Failure (Except EngineFault α)
  | .ok value => .ok (.ok value)
  | .error (.engine fault) => .ok (.error fault)
  | .error failure => .error failure

def tryCall (call : EngineCall) : Procedure (Except EngineFault call.Reply) :=
  attempt (separateFault <$> (send (.engine call) : Routine (Except Failure call.Reply)))

def report (level : Level) (component message : String) (data : Entries Json := [])
    (runId : Option String := none) : Procedure Unit :=
  ask (.report ⟨level, component, message, data, runId⟩)

end Procedure

end Flowplan
