import Flowplan.Json.Basic
import Flowplan.Time

namespace Flowplan

structure Workflow where
  id : String
  appId : String
  name : String
  description : Option String
  category : Option String
  channel : Option String
  audience : Option String
  styleName : Option String
  signature : String
  signatureName : String
  dag : Json
  flowPath : Option String
  status : String
  createdAt : Option Time
  updatedAt : Time
deriving DecidableEq

namespace Workflow

def activeStatus : String := "active"

def deletedStatus : String := "deleted"

def isDeleted (workflow : Workflow) : Bool := workflow.status == deletedStatus

def path? (workflow : Workflow) : Option String := workflow.flowPath.filter (· != "")

/-- Whether two workflows may not be stored beside each other: an app has one
workflow of a signature and one of a name. -/
def clashes (a b : Workflow) : Bool :=
  a.appId == b.appId && (a.signature == b.signature || a.signatureName == b.signatureName)

end Workflow

structure Draft where
  id : Option String := none
  appId : Option String := none
  name : Option String := none
  description : Option String := none
  category : Option String := none
  channel : Option String := none
  audience : Option String := none
  styleName : Option String := none
  signature : Option String := none
  signatureName : Option String := none
  dag : Option Json := none
  flowPath : Option String := none
  status : Option String := none
deriving DecidableEq

def Draft.complete (draft : Draft) (freshId : String) (now : Time) : Option Workflow := do
  return {
    id := draft.id.getD freshId
    appId := ← draft.appId
    name := ← draft.name
    description := draft.description
    category := draft.category
    channel := draft.channel
    audience := draft.audience
    styleName := draft.styleName
    signature := ← draft.signature
    signatureName := ← draft.signatureName
    dag := ← draft.dag
    flowPath := draft.flowPath
    status := draft.status.getD Workflow.activeStatus
    createdAt := some now
    updatedAt := now }

end Flowplan
