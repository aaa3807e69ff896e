import Flowplan.Run.Procedure
import Flowplan.Signature.Basic
import Flowplan.Signature.Names

namespace Flowplan

structure DeployRequest where
  app : String
  graph : Graph
  description : Option String := none
  category : Option String := none
  channel : Option String := none
  audience : Option String := none
  styleName : Option String := none

inductive DeployAction
  | created
  | updated
deriving DecidableEq

def DeployAction.name : DeployAction → String
  | .created => "created"
  | .updated => "updated"

structure Deployed where
  workflow : Workflow
  action : DeployAction
  synced : Bool

namespace Deployer

open Procedure

def component : String := "DEPLOYMENT"

def insertAttempts : Nat := 3

structure Context where
  hasEngine : Bool
  registry : Registry

def compile (c : Context) (graph : Graph) (name : String) : Procedure Plan :=
  match graph.compile c.registry name with
  | .ok plan => do
    (graph.compileLog plan).forM fun entry => ask (.report entry)
    return plan
  | .error e => throw (.notCompiled e)

def settlePush (path : String) : Option EngineFault → Procedure Bool
  | none => return true
  | some fault => do
    report .error component "Failed to push flow to engine" [("flow_path", .str path),
      ("error", .str fault.message)]
    return false

def push (c : Context) (workflow : Workflow) (plan : Plan) (create : Bool) : Procedure Bool := do
  match workflow.path?, c.hasEngine with
  | some path, true =>
    let flow : Flow :=
      ⟨path, some plan.summary, plan.flowValue, workflow.description, some plan.schema⟩
    let fault? ←
      if create then failed <$> tryCall (.createFlow flow)
      else failed <$> tryCall (.updateFlow flow)
    settlePush path fault?
  | _, _ => return false
where
  failed {α : Type} : Except EngineFault α → Option EngineFault
    | .ok _ => none
    | .error fault => some fault

def nonEmptyOr (new old : Option String) : Option String :=
  match new.filter (· != "") with
  | some text => some text
  | none => old

/-- What a deployment over a workflow changes in the stored one. What the request leaves open
is taken from the copy that was read first. -/
def revise (request : DeployRequest) (read stored : Workflow) : Workflow :=
  { stored with
    status := Workflow.activeStatus
    description := request.description.or read.description
    category := nonEmptyOr request.category read.category
    channel := nonEmptyOr request.channel read.channel
    audience := nonEmptyOr request.audience read.audience
    dag := request.graph.write }

/-- Deploys over a workflow that is there. A deleted one has no flow on the engine any more. -/
def update (c : Context) (request : DeployRequest) (existing : Workflow) : Procedure Deployed := do
  let plan ← compile c request.graph existing.name
  let revived := existing.isDeleted
  let workflow : Workflow ← attempt (send (.updateWorkflow existing.id (revise request existing)))
  let synced ← push c workflow plan revived
  report .info component s!"Updated '{workflow.name}'"
    [("flow_path", .ofText? workflow.flowPath), ("engine_synced", .bool synced),
      ("revived", .bool revived)]
  return ⟨workflow, .updated, synced⟩

def chooseName (request : DeployRequest) (signature : String) : Procedure String := do
  let used : List String ← ask (.listNames request.app)
  let picked := match request.styleName.filter (· != "") with
    | some style => Signature.pickStyleName style used
    | none => Signature.pickName signature used
  match picked with
  | .ok name => return name
  | .error e => throw (.badNumeral e)

def draft (request : DeployRequest) (signature name : String) : Draft where
  appId := some request.app
  name := some name
  description := request.description
  category := request.category
  channel := request.channel
  audience := request.audience
  styleName := request.styleName
  signature := some signature
  signatureName := some name
  dag := some request.graph.write
  flowPath := some (Signature.flowPath request.app name)

/-- Stores a new workflow, with at most some attempts. A conflict means that another deployment was
faster: with the same graph, whose workflow is then updated, or with the same name. -/
def insert (c : Context) (request : DeployRequest) (signature : String) : Nat → Procedure Deployed
  | 0 => throw (.noFreeName signature request.app)
  | attempts + 1 => do
    let name ← chooseName request signature
    let plan ← compile c request.graph name
    let outcome : Except Failure Workflow ← ask (.insertWorkflow (draft request signature name))
    match outcome with
    | .ok workflow =>
      let synced ← push c workflow plan true
      report .success component s!"Created '{name}'"
        [("flow_path", .ofText? workflow.flowPath), ("engine_synced", .bool synced)]
      return ⟨workflow, .created, synced⟩
    | .error .constraint =>
      let winner : Option Workflow ← ask (.findSignature request.app signature)
      match winner with
      | some winner =>
        report .info component "Signature deployed concurrently; updating winner"
          [("name", .str winner.name)]
        update c request winner
      | none =>
        report .warning component "Name taken concurrently; picking another" [("name", .str name)]
        insert c request signature attempts
    | .error failure => throw failure

def deploy (c : Context) (request : DeployRequest) : Procedure Deployed := do
  let defects := request.graph.defects c.registry
  if !defects.isEmpty then throw (.invalidGraph (defects.map Defect.issue))
  let signature := request.graph.signature
  let existing : Option Workflow ← ask (.findSignature request.app signature)
  match existing with
  | some existing => update c request existing
  | none => insert c request signature insertAttempts

def removeFlow (c : Context) (workflow : Workflow) : Procedure Unit := do
  match workflow.path?, c.hasEngine with
  | some path, true =>
    match ← tryCall (.deleteFlow path) with
    | .ok _ => return
    | .error fault =>
      report .error component "Failed to delete flow on engine" [("flow_path", .str path),
        ("error", .str fault.message)]
  | _, _ => return

def markDeleted (id : String) : Procedure Workflow := do
  let deleted : Workflow ← attempt (send (.updateWorkflow id fun workflow =>
    { workflow with status := Workflow.deletedStatus }))
  report .info component s!"Deleted '{deleted.name}'" [("flow_path", .ofText? deleted.flowPath)]
  return deleted

/-- Marks a workflow as deleted and removes its flow. The signature and the name stay taken. -/
def delete (c : Context) (id : String) : Procedure Workflow := do
  match (← ask (.findWorkflow id) : Option Workflow) with
  | none => throw (.noWorkflow id)
  | some workflow =>
    removeFlow c workflow
    markDeleted id

end Deployer

end Flowplan
