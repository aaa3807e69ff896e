import Flowplan.Number.Extended
import Flowplan.Run.Basic
import Flowplan.Store.Workflow

/-!
# The store

Workflows and runs in the order in which they were stored. The store refuses a workflow that
clashes with another one, and a write to a run lands only while the run is active.
-/

namespace Flowplan

structure Store where
  workflows : List Workflow := []
  runs : List Run := []
deriving DecidableEq

namespace Store

def integerLimit : Int := 9223372036854775808

/-- A value as the store gives it back. A number that stands alone is kept as a
decimal and read again: it comes back as an integer if it is one, and as a
fraction if it does not fit into sixty-four bits. -/
def settle : Json → Json
  | .int n =>
    if -integerLimit ≤ n ∧ n < integerLimit then .int n
    else .float (Extended.readDecimal (n < 0) n.natAbs 0)
  | .float x =>
    let x := Extended.reread x
    match x.toInt? with
    | some n => if -integerLimit < n ∧ n < integerLimit then .int n else .float x
    | none => .float x
  | value => value

def workflow? (store : Store) (id : String) : Option Workflow := store.workflows.find? (·.id == id)

def liveWorkflow? (store : Store) (id : String) : Option Workflow :=
  (store.workflow? id).filter (!·.isDeleted)

def bySignature? (store : Store) (app signature : String) (includeDeleted : Bool) :
    Option Workflow :=
  store.workflows.find? fun w =>
    w.appId == app && w.signature == signature && (includeDeleted || !w.isDeleted)

def usedNames (store : Store) (app : String) : List String :=
  (store.workflows.filter (·.appId == app)).map (·.signatureName)

def admits (others : List Workflow) (workflow : Workflow) : Bool :=
  !others.any fun other => other.id == workflow.id || other.clashes workflow

def settleWorkflow (workflow : Workflow) : Workflow := { workflow with dag := settle workflow.dag }

def insertWorkflow (store : Store) (draft : Draft) (freshId : String) (now : Time) :
    Except Failure (Workflow × Store) :=
  match draft.complete freshId now with
  | none => .error .constraint
  | some workflow =>
    if admits store.workflows workflow then
      .ok (workflow, { store with workflows := store.workflows ++ [settleWorkflow workflow] })
    else .error .constraint

def updateWorkflow (store : Store) (id : String) (change : Workflow → Workflow) (now : Time) :
    Except Failure (Workflow × Store) :=
  match store.workflow? id with
  | none => .error (.noRecord id)
  | some found =>
    let changed := { change found with updatedAt := now }
    if admits (store.workflows.filter (·.id != id)) changed then
      let kept := settleWorkflow changed
      .ok (changed,
        { store with workflows := store.workflows.map fun w => if w.id == id then kept else w })
    else .error .constraint

def run? (store : Store) (id : String) : Option Run := store.runs.find? (·.id == id)

def insertRun (store : Store) (run : Run) : Store :=
  { store with
    runs := store.runs ++ [{ run with inputs := settle run.inputs, result := settle run.result }] }

def runsIn (store : Store) (statuses : List RunStatus) : List Run :=
  store.runs.filter fun run => statuses.contains run.status

/-- What a stored run becomes when a copy of it is written: the fields of its life cycle are
those of the copy, as the store keeps them. -/
def overwrite (stored copy : Run) : Run :=
  { stored with
    status := copy.status, result := settle copy.result, error := copy.error, startedAt :=
      copy.startedAt
    completedAt := copy.completedAt, jobId := copy.jobId }

structure Written where
  stored : Run
  landed : Bool
deriving DecidableEq

/-- Writes a copy of a run back. The write lands while the stored run is active. -/
def saveRun (store : Store) (copy : Run) : Option Written × Store :=
  match store.run? copy.id with
  | none => (none, store)
  | some stored =>
    if stored.status.isTerminal then (some ⟨stored, false⟩, store)
    else
      let changed := overwrite stored copy
      (some ⟨changed, true⟩,
        { store with runs := store.runs.map fun r => if r.id == copy.id then changed else r })

end Store

end Flowplan
