namespace Flowplan

inductive RunStatus
  | queued
  | running
  | completed
  | failed
  | cancelled
deriving DecidableEq

namespace RunStatus

def all : List RunStatus := [.queued, .running, .completed, .failed, .cancelled]

def name : RunStatus → String
  | .queued => "queued"
  | .running => "running"
  | .completed => "completed"
  | .failed => "failed"
  | .cancelled => "cancelled"

def ofName? (name : String) : Option RunStatus := all.find? (·.name == name)

def isTerminal : RunStatus → Bool
  | .queued | .running => false
  | .completed | .failed | .cancelled => true

def active : List RunStatus := [.queued, .running]

def successors : RunStatus → List RunStatus
  | .queued => [.running, .completed, .failed, .cancelled]
  | .running => [.completed, .failed, .cancelled]
  | .completed | .failed | .cancelled => []

def canBecome (current target : RunStatus) : Bool := current.successors.contains target

@[simp] theorem ofName?_name (status : RunStatus) : ofName? status.name = some status := by
  cases status <;> decide

theorem isTerminal_iff (status : RunStatus) :
    status.isTerminal = true ↔ status.successors = [] := by
  cases status <;> decide

theorem mem_active_iff (status : RunStatus) : status ∈ active ↔ status.isTerminal = false := by
  cases status <;> decide

end RunStatus

end Flowplan
