import Flowplan.Proofs.Interference

namespace Flowplan

def newText (others : List String) : String := String.ofList (others.flatMap String.toList ++ ['+'])

theorem newText_notMem (others : List String) : newText others ∉ others := by
  intro hmem
  -- it is longer than all the others together
  obtain ⟨before, after, hothers⟩ := List.append_of_mem hmem
  have hlength : (newText others).toList.length = (others.flatMap String.toList).length + 1 := by
    simp [newText]
  have hsum := congrArg (fun texts => (texts.flatMap String.toList).length) hothers
  simp only [List.flatMap_append, List.flatMap_cons, List.length_append] at hsum
  omega

namespace Store

variable {store : Store}

def newWorkflowId (store : Store) : String := newText (store.workflows.map Workflow.id)

def newRunId (store : Store) : String := newText (store.runs.map Run.id)

theorem workflow?_newWorkflowId (store : Store) : store.workflow? store.newWorkflowId = none := by
  refine List.find?_eq_none.mpr fun workflow hworkflow hid =>
    newText_notMem (store.workflows.map Workflow.id) ?_
  exact List.mem_map.mpr ⟨workflow, hworkflow, eq_of_beq hid⟩

theorem run?_newRunId (store : Store) : store.run? store.newRunId = none := by
  refine List.find?_eq_none.mpr fun run hrun hid => newText_notMem (store.runs.map Run.id) ?_
  exact List.mem_map.mpr ⟨run, hrun, eq_of_beq hid⟩

def settled {α : Type} (store : Store) : Except Failure (α × Store) → Except Failure α × Store
  | .ok (value, store') => (.ok value, store')
  | .error failure => (.error failure, store)

def outage : EngineFault := .reported "out of order" none

def respond : (action : Action) → Store → action.Answer × Store
  | .findWorkflow id, store => (store.liveWorkflow? id, store)
  | .findSignature app signature, store => (store.bySignature? app signature true, store)
  | .listNames app, store => (store.usedNames app, store)
  | .insertWorkflow draft, store =>
    store.settled (store.insertWorkflow draft store.newWorkflowId ⟨0⟩)
  | .updateWorkflow id change, store => store.settled (store.updateWorkflow id change ⟨0⟩)
  | .insertRun workflowId inputs jobId, store =>
    let run := .queued store.newRunId workflowId inputs jobId ⟨0⟩
    (run, store.insertRun run)
  | .findRun id, store => (store.run? id, store)
  | .listActive, store => (.ok (store.runsIn RunStatus.active), store)
  | .saveRun copy, store => store.saveRun copy
  | .engine _, store => (.error (.engine outage), store)
  | .readClock, store => (⟨0⟩, store)
  | .readServices, store => ([], store)
  | .report _, store => ((), store)
  | .beginPoll, store => (true, store)
  | .endPoll, store => ((), store)

theorem answers_respond (store : Store) (action : Action) :
    store.Answers action (respond action store).1 (respond action store).2 := by
  cases action with
  | findWorkflow id => exact .findWorkflow store id
  | findSignature app signature => exact .findSignature store app signature
  | listNames app => exact .listNames store app
  | insertWorkflow draft =>
    simp only [respond, settled]
    split
    · next h => exact .insertWorkflow h
    · next h => exact .refuseInsert h
  | updateWorkflow id change =>
    simp only [respond, settled]
    split
    · next h => exact .updateWorkflow h
    · next h => exact .refuseUpdate h
  | insertRun workflowId inputs jobId =>
    exact .insertRun workflowId inputs jobId ⟨0⟩ store.run?_newRunId
  | findRun id => exact .findRun store id
  | listActive => exact .listActive store
  | saveRun copy => exact .saveRun store copy
  | engine call => exact .engine store fun failure h => Except.error.inj h ▸ rfl
  | readClock => exact .readClock store ⟨0⟩
  | readServices => exact .readServices store []
  | report entry => exact .report store entry
  | beginPoll => exact .beginPoll store true
  | endPoll => exact .endPoll store

theorem fair_respond (store : Store) (action : Action) :
    store.Fair action (respond action store).1 := by
  cases action with
  | insertWorkflow draft =>
    simp only [respond, settled]
    split
    · exact trivial
    · next h => exact ⟨_, _, store.workflow?_newWorkflowId, h⟩
  | _ => trivial

end Store

namespace System

variable {Call α : Type} {routine : Call → Routine α}

def advance (s : System Call α) (i : Nat) : System Call α :=
  match s.tasks[i]? with
  | some ⟨call, history, .ask action next⟩ =>
    let (answer, store) := Store.respond action s.store
    ⟨store, s.tasks.set i ⟨call, history ++ [⟨action, answer⟩], next answer⟩⟩
  | _ => s

theorem advance_run (s : System Call α) (i : Nat) :
    Relation.ReflTransGen (FairStep routine) s (s.advance i) := by
  rw [advance]
  split
  · next call history action next h =>
    obtain ⟨hi, hget⟩ := List.getElem?_eq_some_iff.mp h
    obtain ⟨before, after, htasks, _, hset⟩ := List.exists_of_set hi
    rw [hget] at htasks
    dsimp only
    rw [hset]
    obtain ⟨store, tasks⟩ := s
    subst htasks
    exact .single (.answer before after (store.answers_respond action) (store.fair_respond action))
  · exact .refl

theorem run_of_schedule (s : System Call α) (schedule : List Nat) :
    Relation.ReflTransGen (FairStep routine) s (schedule.foldl advance s) := by
  induction schedule generalizing s with
  | nil => exact .refl
  | cons i schedule ih => exact (advance_run s i).trans (ih (s.advance i))

end System

end Flowplan
