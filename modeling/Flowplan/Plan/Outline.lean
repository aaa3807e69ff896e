import Flowplan.Plan.Basic

namespace Flowplan.Outline

inductive OutlineError
  | noBody
deriving DecidableEq

def OutlineError.message : OutlineError → String
  | .noBody => "Unknown module plan: NoneType"

def text (fields : Entries Json) (name : String) : String :=
  match fields.lookup name with
  | some (.str s) => s
  | _ => ""

def text? (fields : Entries Json) (name : String) : Option String :=
  match fields.lookup name with
  | some (.str s) => some s
  | _ => none

def list (fields : Entries Json) (name : String) : List Json :=
  match fields.lookup name with
  | some (.arr items) => items
  | _ => []

def object : Option Json → Entries Json
  | some (.obj fields) => fields
  | _ => []

def flag (fields : Entries Json) (name : String) : Bool :=
  ((fields.lookup name).getD (.bool false)).truthy

def param (value : Json) : Param :=
  match value.field? "expr" with
  | some (.str expr) => .expr expr
  | _ => .static ((value.field? "static").getD .null)

def params (fields : Entries Json) : Entries Param :=
  (object (fields.lookup "params")).mapValues param

def directives (fields : Entries Json) : Directives where
  summary := text? fields "summary"
  retry := match fields.lookup "retries" with
    | some (.int n) => some (Retry.ofCount n)
    | _ => none
  stopAfter := text? fields "stop_after"
  skipIf := text? fields "skip_if"

mutual

def module : Nat → Json → Except OutlineError Module
  | 0, _ => .error .noBody
  | depth + 1, value => do
    let fields := object (some value)
    let body ← body depth (object (fields.lookup "plan"))
    return .mk (text fields "id") body (directives fields)

def body : Nat → Entries Json → Except OutlineError Body
  | 0, _ => .error .noBody
  | depth + 1, fields =>
    match text fields "kind" with
    | "script" => .ok (.script (text fields "path") (params fields))
    | "sleep" => .ok (.pause ((fields.lookup "seconds").getD .null))
    | "branch" => do
      let cases ← (list fields "branches").mapM fun value => do
        let fields := object (some value)
        return Case.mk (text fields "expr") (← (list fields "body").mapM (module depth))
      return .branch cases
    | "loop" => do
      let modules ← (list fields "body").mapM (module depth)
      return .loop (text fields "iterator") modules (flag fields "parallel")
        (flag fields "skip_failures")
    | _ => .error .noBody

end

/-- The plan of an outline; a failure module of which nothing is stated is none. Every module takes
a level of nesting at least, so the depth of the document bounds the reading. -/
def plan (document : Json) : Except OutlineError Plan := do
  let fields := object (some document)
  let modules ← (list fields "modules").mapM (module document.depth)
  let failure ← match fields.lookup "failure" with
    | some (.obj (first :: rest)) => some <$> module document.depth (.obj (first :: rest))
    | _ => pure none
  return {
    summary := text fields "summary", modules, inputs := object (fields.lookup "schema"), failure
    sameWorker := flag fields "same_worker" }

end Flowplan.Outline
