import Flowplan.Engine.Call
import Flowplan.Failure
import Flowplan.Time

namespace Flowplan

structure Run where
  id : String
  workflowId : Option String
  jobId : Option String
  status : RunStatus
  inputs : Json
  result : Json
  error : Option String
  startedAt : Option Time
  completedAt : Option Time
  createdAt : Option Time
deriving DecidableEq

namespace Run

def queued (id : String) (workflowId : Option String) (inputs : Json) (jobId : Option String)
    (now : Time) : Run where
  id := id
  workflowId := workflowId
  jobId := jobId
  status := .queued
  inputs := inputs
  result := .null
  error := none
  startedAt := none
  completedAt := none
  createdAt := some now

def job? (run : Run) : Option String := run.jobId.filter (· != "")

def moveTo (run : Run) (target : RunStatus) : Except Failure Run :=
  if run.status.canBecome target then .ok { run with status := target }
  else .error (.forbiddenMove run.id run.status target)

def failureText : Json → String
  | .null => "Unknown error"
  | .arr items => (Json.arr items).print .spaced
  | .obj fields => (Json.obj fields).print .spaced
  | value => value.display

/-- Folds the state of its job into a run. There is nothing to fold into a finished run, and
nothing new in a job that is still running. -/
def observe (run : Run) (job : Job) (now : Time) : Option Run :=
  if run.status.isTerminal then none
  else if !job.running then
    if job.success == some true then
      some { run with
        status := .completed, result := job.result, error := none, completedAt := some now }
    else
      some { run with
        status := .failed, result := .null, error := some (failureText job.result),
        completedAt := some now }
  else if run.status == .queued then some { run with status := .running, startedAt := some now }
  else none

def cancel (run : Run) (now : Time) : Except Failure Run :=
  (run.moveTo .cancelled).map fun run => { run with completedAt := some now }

theorem observe_of_isTerminal {run : Run} (h : run.status.isTerminal = true) (job : Job)
    (now : Time) : run.observe job now = none := by
  simp [observe, h]

end Run

end Flowplan
