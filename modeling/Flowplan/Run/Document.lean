import Flowplan.Run.Basic

namespace Flowplan.Run

def timeJson (time : Option Time) : Json := .ofText? (time.map Time.text)

def write (run : Run) : Json :=
  .obj [("id", .str run.id), ("workflowId", .ofText? run.workflowId),
    ("externalJobId", .ofText? run.jobId), ("status", .str run.status.name), ("inputs", run.inputs),
    ("result", run.result), ("error", .ofText? run.error), ("startedAt", timeJson run.startedAt),
    ("completedAt", timeJson run.completedAt), ("createdAt", timeJson run.createdAt)]

def readStatus (value : Json) : Except Failure RunStatus :=
  match value with
  | .str name =>
    match RunStatus.ofName? name with
    | some status => .ok status
    | none => .error (.badStatus value)
  | value => .error (.badStatus value)

end Flowplan.Run

namespace Flowplan

/-- A copy of a run. Nothing keeps its fields from being of the wrong kind. -/
structure RunCopy where
  id : Json := .null
  workflowId : Json := .null
  jobId : Json := .null
  status : Json := .null
  inputs : Json := .null
  result : Json := .null
  error : Json := .null
  startedAt : Option Time := none
  completedAt : Option Time := none
  createdAt : Option Time := none
deriving DecidableEq

namespace RunCopy

def ofRun (run : Run) : RunCopy where
  id := .str run.id
  workflowId := .ofText? run.workflowId
  jobId := .ofText? run.jobId
  status := .str run.status.name
  inputs := run.inputs
  result := run.result
  error := .ofText? run.error
  startedAt := run.startedAt
  completedAt := run.completedAt
  createdAt := run.createdAt

def run (copy : RunCopy) : Except Failure Run :=
  (Run.readStatus copy.status).map fun status => {
    id := copy.id.display
    workflowId := copy.workflowId.text?
    jobId := if copy.jobId.truthy then copy.jobId.text? else none
    status := status
    inputs := copy.inputs
    result := copy.result
    error := copy.error.text?
    startedAt := copy.startedAt
    completedAt := copy.completedAt
    createdAt := copy.createdAt }

def write (copy : RunCopy) : Except Failure Json :=
  (Run.readStatus copy.status).map fun status =>
    .obj [("id", copy.id), ("workflowId", copy.workflowId), ("externalJobId", copy.jobId),
      ("status", .str status.name), ("inputs", copy.inputs), ("result", copy.result),
      ("error", copy.error), ("startedAt", Run.timeJson copy.startedAt),
      ("completedAt", Run.timeJson copy.completedAt), ("createdAt", Run.timeJson copy.createdAt)]

theorem write_ofRun (run : Run) : (ofRun run).write = .ok run.write := by
  simp [write, ofRun, Run.readStatus, Run.write, Except.map]

def follow (copy : RunCopy) (run : Run) : RunCopy :=
  { copy with
    status := .str run.status.name, result := run.result, error := .ofText? run.error
    startedAt := run.startedAt, completedAt := run.completedAt }

def observe (copy : RunCopy) (job : Job) (now : Time) : Except Failure (Option RunCopy) :=
  copy.run.map fun run => (run.observe job now).map copy.follow

def put (copy : RunCopy) (name : String) (value : Json) : RunCopy :=
  match name with
  | "id" => { copy with id := value }
  | "workflow_id" => { copy with workflowId := value }
  | "external_job_id" => { copy with jobId := value }
  | "status" => { copy with status := value }
  | "inputs" => { copy with inputs := value }
  | "result" => { copy with result := value }
  | "error" => { copy with error := value }
  | "started_at" => { copy with startedAt := none }
  | "completed_at" => { copy with completedAt := none }
  | "created_at" => { copy with createdAt := none }
  | _ => copy

def fieldNames : List String :=
  ["id", "workflow_id", "external_job_id", "status", "inputs", "result", "error", "started_at",
    "completed_at", "created_at"]

theorem put_of_notMem {name : String} (h : name ∉ fieldNames) (copy : RunCopy) (value : Json) :
    copy.put name value = copy := by
  simp only [fieldNames, List.mem_cons, List.not_mem_nil, or_false, not_or] at h
  unfold put
  split <;> simp_all

def refusal? (name : String) (value : Json) : Option Failure :=
  match name, Run.readStatus value with
  | "status", .error failure => some failure
  | _, _ => none

def set (copy : RunCopy) : Entries Json → Except Failure Unit × RunCopy
  | [] => (.ok (), copy)
  | (name, value) :: rest =>
    match refusal? name value with
    | some failure => (.error failure, copy)
    | none => (copy.put name value).set rest

def ofFields (fields : Entries Json) : Except Failure RunCopy :=
  match fields.find? fun (name, _) => !fieldNames.contains name with
  | some (name, _) => .error (.unknownField name "WorkflowRun")
  | none => .ok (fields.foldl (fun copy (name, value) => copy.put name value) {})

end RunCopy

end Flowplan
