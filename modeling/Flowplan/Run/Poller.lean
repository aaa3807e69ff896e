import Flowplan.Run.Service

/-!
# Polling

A tick asks the engine for the job of every active run, one after another. Trouble with one run
does not keep the tick from the others, and two ticks never overlap.
-/

namespace Flowplan.Poller

open Procedure

def component : String := "JOB_POLLER"

def store (changed : Run) : Procedure Bool := do
  let stored ← RunService.save changed
  if stored.status == changed.status then
    report .info component s!"Run {changed.id} -> {changed.status.name}"
    return true
  return false

def poll (run : Run) (jobId : String) : Procedure Bool := do
  let job : Job ← call (.getJob jobId)
  let now : Time ← ask .readClock
  match run.observe job now with
  | none => return false
  | some changed => store changed

def pollSafely (run : Run) : Routine Bool := do
  match run.job? with
  | none => return false
  | some jobId =>
    match ← (poll run jobId).run with
    | .ok changed => return changed
    | .error failure =>
      let entry : LogEntry :=
        ⟨.error, component, s!"Polling run {run.id} failed: {failure.message}",
          [("job_id", .str jobId)], none⟩
      let _ ← (send (.report entry) : Routine Unit)
      return false

def pollAll : List Run → Routine Nat
  | [] => return 0
  | run :: rest => do
    let changed ← pollSafely run
    let others ← pollAll rest
    return (if changed then 1 else 0) + others

def work : Routine Nat := do
  match (← (send .listActive : Routine (Except Failure (List Run)))) with
  | .ok runs => pollAll runs
  | .error failure =>
    let entry : LogEntry :=
      ⟨.error, component, "Error fetching active runs", [("error", .str failure.message)], none⟩
    let _ ← (send (.report entry) : Routine Unit)
    return 0

def tick : Routine Nat := do
  if !(← (send .beginPoll : Routine Bool)) then return 0
  let changed ← work
  let _ ← (send .endPoll : Routine Unit)
  return changed

def starting (interval : String) : LogEntry :=
  ⟨.info, component, s!"Starting (every {interval}s)", [], none⟩

def stopped : LogEntry := ⟨.info, component, "Stopped", [], none⟩

end Flowplan.Poller
