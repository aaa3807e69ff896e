import Flowplan.Directory
import Flowplan.Generation.Conversation
import Flowplan.Generation.Prompt
import Flowplan.Generation.Request
import Flowplan.Program

/-!
# The generator

The generator talks to a model until it hands in a valid graph. There are two budgets: how often
the model may speak, and how often what it hands in may be rejected.
-/

namespace Flowplan

inductive GenerationFailure
  | model (message : String)
  | noToolCall
  | rejected (issues : List Issue)
  | turnsUsedUp
deriving DecidableEq

namespace Generator

def maxTurns : Nat := 10

def maxRejections : Nat := 2

end Generator

def GenerationFailure.message : GenerationFailure → String
  | .model message => message
  | .noToolCall => "The model did not return a tool call"
  | .rejected _ => "Generated DAG is invalid after retries"
  | .turnsUsedUp => s!"Generation exceeded {Generator.maxTurns} turns without producing a workflow"

namespace Generator

inductive Action
  | askModel (messages : List Message)
  | consult (query : Directory.Query)
  | report (entry : LogEntry)
  | trace (kind prompt : String) (response : Option String) (metadata : Json)

def Action.Answer : Action → Type
  | .askModel _ => Except String (List ResponsePart)
  | .consult _ => Except Directory.Trouble Json
  | .report _ => Unit
  | .trace _ _ _ _ => Unit

abbrev Routine := Program Action.Answer

abbrev Procedure := ExceptT GenerationFailure Routine

def send (action : Action) : Routine action.Answer := Program.request action

structure Context where
  description : String
  registry : Registry
  discovery : Bool

structure Session where
  messages : List Message
  turns : Nat := 0
  rejections : Nat := 0

def report (level : Level) (message : String) (data : Entries Json) : Routine Unit :=
  send (.report ⟨level, "WORKFLOW_GENERATOR", message, data, none⟩)

def faultIssue (fault : Intake.Fault) : Issue :=
  ⟨if fault.place == "" then "input" else fault.place, fault.cause.message⟩

def candidate (registry : Registry) (call : ToolCall) : Except (List Issue) Candidate :=
  match Candidate.read (.obj call.arguments) with
  | .bad faults => .error (faults.map faultIssue)
  | .good candidate =>
    let defects := candidate.graph.defects registry
    if defects.isEmpty then .ok candidate else .error (defects.map Defect.issue)

def unknownTool (call : ToolCall) : RequestPart := .retry call s!"Unknown tool: {call.tool}"

def notExecuted (call : ToolCall) : RequestPart :=
  .result call s!"Not executed: {Tool.createWorkflow} was called in the same turn."

def query? (call : ToolCall) : Option Directory.Query :=
  if call.tool == Tool.listServices then some .services
  else if call.tool == Tool.getServiceEndpoints then
    some (.specification ((call.arguments.lookup "service").getD .null).display)
  else none

def discover (c : Context) (call : ToolCall) : Routine RequestPart := do
  match (query? call).filter fun _ => c.discovery with
  | none => return unknownTool call
  | some query =>
    match (← send (.consult query) : Except Directory.Trouble Json) with
    | .ok value =>
      (query.successLog value).forM fun entry => (send (.report entry) : Routine Unit)
      return .result call (value.print .indented)
    | .error trouble =>
      report .warning s!"{call.tool} failed" [("error", .str trouble.message)]
      return .retry call s!"Error: {trouble.message}"

def callsText (calls : List ToolCall) : String :=
  (Json.arr (calls.map fun call => .obj [("tool", .str call.tool), ("args", call.args)])).print
    .spacedAscii

def listen (session : Session) : Procedure (List ResponsePart) := do
  match (← ExceptT.lift (send (.askModel session.messages)) :
      Except String (List ResponsePart)) with
  | .error message => throw (.model message)
  | .ok parts =>
    let turn := session.turns + 1
    let calls := toolCalls parts
    ExceptT.lift (send (.trace "workflow_generation" s!"turn {turn}" (some (callsText calls))
      (.obj [("turn", .int turn)])) : Routine Unit)
    if calls.isEmpty then throw .noToolCall
    ExceptT.lift (report .info s!"Turn {turn}"
      [("tools", .arr (calls.map fun call => .str call.tool))])
    return parts

def reject (rejections : Nat) (issues : List Issue) : Procedure Unit := do
  ExceptT.lift (report .warning "Generated DAG rejected" [("attempt", .int rejections),
    ("errors", .arr (issues.map fun issue => .str s!"{issue.field}: {issue.message}"))])
  if maxRejections < rejections then throw (.rejected issues)

def takeCreation : List ToolCall → Option (ToolCall × List ToolCall)
  | [] => none
  | call :: rest =>
    if call.tool == Tool.createWorkflow then some (call, rest)
    else (takeCreation rest).map fun (found, others) => (found, call :: others)

/-- Answers the calls of a turn, or takes the workflow that one of them hands in.
Calls beside that one are not carried out. -/
def resolve (c : Context) (session : Session) (calls : List ToolCall) :
    Procedure (Candidate ⊕ List RequestPart × Nat) := do
  match takeCreation calls with
  | none =>
    let parts ← ExceptT.lift (calls.mapM (discover c))
    return .inr (parts, session.rejections)
  | some (call, others) =>
    match candidate c.registry call with
    | .ok found => return .inl found
    | .error issues =>
      reject (session.rejections + 1) issues
      return .inr (.retry call (Prompt.retry c.description issues) :: others.map notExecuted,
        session.rejections + 1)

def converse (c : Context) : Nat → Session → Procedure (Candidate × Session)
  | 0, _ => throw .turnsUsedUp
  | left + 1, session => do
    let parts ← listen session
    let session := { session with turns := session.turns + 1 }
    match ← resolve c session (toolCalls parts) with
    | .inl found => return (found, session)
    | .inr (answers, rejections) =>
      converse c left { session with
        messages := session.messages ++ [.response parts, .request answers], rejections }

def opening (c : Context) (hints : Option Hints) (style : Option Style) : List Message :=
  let wanted := match hints with
    | some hints => hints.services
    | none => []
  [.request [.system (Prompt.system wanted c.discovery (style.map Style.directive) c.registry),
    .user (requestMessage c.description hints)]]

def generate (c : Context) (hints : Option Hints) (style : Option Style) : Procedure Candidate := do
  let (found, session) ← converse c maxTurns { messages := opening c hints style }
  ExceptT.lift (report .success "Workflow generated" [("turns", .int session.turns),
    ("validation_failures", .int session.rejections), ("nodes", .int found.graph.nodes.length)])
  return found

end Generator

end Flowplan
