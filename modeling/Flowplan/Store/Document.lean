import Flowplan.Failure
import Flowplan.Store.Workflow

namespace Flowplan

namespace Workflow

def write (w : Workflow) : Json :=
  .obj [("id", .str w.id), ("app_id", .str w.appId), ("name", .str w.name),
    ("description", .ofText? w.description), ("category", .ofText? w.category),
    ("channel", .ofText? w.channel), ("audience_type", .ofText? w.audience),
    ("style_name", .ofText? w.styleName), ("signature", .str w.signature),
    ("signature_name", .str w.signatureName), ("dag", w.dag), ("flow_path", .ofText? w.flowPath),
    ("status", .str w.status), ("created_at", .ofText? (w.createdAt.map Time.text)),
    ("updated_at", .str w.updatedAt.text)]

def statedColumns : List String :=
  ["id", "app_id", "name", "description", "category", "channel", "audience_type", "style_name",
    "signature", "signature_name", "flow_path", "status"]

def writeStated (w : Workflow) (stated : Entries Json) : Json :=
  let shown := stated.filter fun (name, value) => statedColumns.contains name && value != .null
  match w.write with
  | .obj columns => .obj (Entries.putAll columns shown)
  | value => value

def columnText? : Json → Option String
  | .bool value => some (if value then "1" else "0")
  | value => value.text?

def needed (value : Json) : Except Failure String :=
  match columnText? value with
  | some text => .ok text
  | none => .error .constraint

def assign (w : Workflow) (name : String) (value : Json) : Except Failure Workflow :=
  match name with
  | "id" => (needed value).map fun text => { w with id := text }
  | "app_id" => (needed value).map fun text => { w with appId := text }
  | "name" => (needed value).map fun text => { w with name := text }
  | "description" => .ok { w with description := columnText? value }
  | "category" => .ok { w with category := columnText? value }
  | "channel" => .ok { w with channel := columnText? value }
  | "audience_type" => .ok { w with audience := columnText? value }
  | "style_name" => .ok { w with styleName := columnText? value }
  | "signature" => (needed value).map fun text => { w with signature := text }
  | "signature_name" => (needed value).map fun text => { w with signatureName := text }
  | "dag" => .ok { w with dag := value }
  | "flow_path" => .ok { w with flowPath := columnText? value }
  | "status" => (needed value).map fun text => { w with status := text }
  | "created_at" => .ok { w with createdAt := w.createdAt.filter fun _ => value != .null }
  | _ => .ok w

def assignAll (fields : Entries Json) (w : Workflow) : Except Failure Workflow :=
  fields.foldlM (fun w (name, value) => w.assign name value) w

end Workflow

namespace Draft

def assign (draft : Draft) (name : String) (value : Json) : Except Failure Draft :=
  match name with
  | "id" => .ok { draft with id := Workflow.columnText? value }
  | "app_id" => .ok { draft with appId := Workflow.columnText? value }
  | "name" => .ok { draft with name := Workflow.columnText? value }
  | "description" => .ok { draft with description := Workflow.columnText? value }
  | "category" => .ok { draft with category := Workflow.columnText? value }
  | "channel" => .ok { draft with channel := Workflow.columnText? value }
  | "audience_type" => .ok { draft with audience := Workflow.columnText? value }
  | "style_name" => .ok { draft with styleName := Workflow.columnText? value }
  | "signature" => .ok { draft with signature := Workflow.columnText? value }
  | "signature_name" => .ok { draft with signatureName := Workflow.columnText? value }
  | "dag" => .ok { draft with dag := some value }
  | "flow_path" => .ok { draft with flowPath := Workflow.columnText? value }
  | "status" => .ok { draft with status := Workflow.columnText? value }
  | "created_at" | "updated_at" => .ok draft
  | name => .error (.unknownField name "WorkflowRecord")

def ofFields (fields : Entries Json) : Except Failure Draft :=
  fields.foldlM (fun draft (name, value) => draft.assign name value) {}

end Draft

end Flowplan
