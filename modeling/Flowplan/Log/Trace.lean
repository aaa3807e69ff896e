import Flowplan.Json.Basic

namespace Flowplan

inductive Level
  | debug
  | info
  | success
  | warning
  | error
deriving DecidableEq

def Level.label : Level → String
  | .debug => "DEBUG"
  | .info => "INFO"
  | .success => "SUCCESS"
  | .warning => "WARN"
  | .error => "ERROR"

structure LogEntry where
  level : Level
  component : String
  message : String
  data : Entries Json := []
  runId : Option String := none
deriving DecidableEq

structure Trace where
  number : Nat
  kind : String
  prompt : String
  response : Option String
  metadata : Json
deriving DecidableEq

structure TraceHistory where
  limit : Nat
  traces : List Trace := []
  total : Nat := 0
deriving DecidableEq

namespace TraceHistory

def record (history : TraceHistory) (kind prompt : String) (response : Option String)
    (metadata : Json) : TraceHistory :=
  let traces := history.traces ++ [⟨history.total + 1, kind, prompt, response, metadata⟩]
  { history with traces := traces.drop (traces.length - history.limit), total := history.total + 1 }

def clear (history : TraceHistory) : TraceHistory := { history with traces := [] }

theorem length_record (history : TraceHistory) (kind prompt : String) (response : Option String)
    (metadata : Json) :
    (history.record kind prompt response metadata).traces.length ≤ history.limit := by
  simp [record]
  omega

end TraceHistory

end Flowplan
