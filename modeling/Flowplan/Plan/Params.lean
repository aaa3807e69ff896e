import Flowplan.Plan.Expression
import Flowplan.Plan.Wire

namespace Flowplan.InputSchema

def base : Entries Json :=
  [("appId", .obj [("type", .str "string"), ("description", .str "Application identifier")]),
    ("serviceEnvs", .obj [("type", .str "object"),
      ("description", .str "Service URLs and API keys injected at run time")])]

def declare (declared : Entries Json) (field : String) : Entries Json :=
  if field == "" || declared.has field then declared
  else declared.put field (.obj [("type", .str "string")])

def referenced (graph : Graph) : List String :=
  graph.nodes.flatMap fun node => node.inputs.filterMap fun (_, value) =>
    Reference.inputField? value

def infer (graph : Graph) : Entries Json := (referenced graph).foldl declare base

end Flowplan.InputSchema

namespace Flowplan.Params

def ofInput (value : Json) : Param :=
  match value with
  | .str s =>
    if Reference.isReference value then .expr (Expression.ofReference s) else .static value
  | _ => .static value

def isIdentifierStart (c : Char) : Bool := c.isAlpha || c == '_' || c == '$'

def isIdentifierChar (c : Char) : Bool := isIdentifierStart c || c.isDigit

def isIdentifier (name : List Char) : Bool :=
  let body := if name.getLast? == some '\n' then name.dropLast else name
  match body with
  | [] => false
  | c :: rest => isIdentifierStart c && rest.all isIdentifierChar

def propertyName (name : List Char) : List Char :=
  if isIdentifier name then name else Json.quote false name

def property (name value : List Char) : List Char := propertyName name ++ ':' :: ' ' :: value

def spread (fields : Entries Json) : List Char :=
  '.' :: '.' :: '.' :: Json.write .compact 0 (.obj fields)

def objectText (parts : List (List Char)) : List Char :=
  '{' :: Text.joinWith [',', ' '] parts ++ ['}']

def spreadPart (fields : Entries Json) : List (List Char) :=
  if fields.isEmpty then [] else [spread fields]

def splitName (name : String) : String × Option String :=
  let (before, after) := Text.cut '.' name.toList
  (String.ofList before, after.map String.ofList)

def isDotted (name : String) : Bool := name.toList.contains '.'

def groupUnder {α : Type} (items : List (String × α)) : Entries (List α) :=
  items.foldl
    (fun groups (head, item) => groups.put head ((groups.lookup head).getD [] ++ [item])) []

def staticFields : Option Param → Entries Json
  | some (.static (.obj fields)) => fields
  | _ => []

def objectFields : Option Json → Entries Json
  | some (.obj fields) => fields
  | _ => []

/-- The object expression for the dotted names of one root, over the static object of that root.
Direct properties come first and nested objects after them. -/
def objectOf (base : Entries Json) (children : List (String × Param)) : Param :=
  let direct := children.filterMap fun (path, p) =>
    match splitName path with
    | (name, none) => some (property name.toList p.render)
    | _ => none
  let nested := groupUnder <| children.filterMap fun (path, p) =>
    match splitName path with
    | (parent, some child) => some (parent, property child.toList p.render)
    | _ => none
  let nestedParts := nested.map fun (parent, parts) =>
    property parent.toList (objectText (spreadPart (objectFields (base.lookup parent)) ++ parts))
  .expr (String.ofList ('(' :: objectText (spreadPart base ++ direct ++ nestedParts) ++ [')']))

def collapse (params : Entries Param) : Entries Param :=
  let plain : Entries Param := params.filter fun (name, _) => !isDotted name
  let groups := groupUnder <| params.filterMap fun (name, p) =>
    match splitName name with
    | (root, some path) => some (root, (path, p))
    | _ => none
  plain.putAll (groups.map fun (root, children) =>
    (root, objectOf (staticFields (plain.lookup root)) children))

def ofStep (config inputs : Entries Json) : Entries Param :=
  collapse (Entries.putAll (Entries.putAll [] (config.mapValues .static))
    (inputs.mapValues ofInput))

end Flowplan.Params
