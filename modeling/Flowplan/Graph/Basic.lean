import Flowplan.Json.Basic
import Flowplan.Text.Segments

namespace Flowplan

structure Node where
  id : String
  kind : String
  config : Entries Json
  inputs : Entries Json
  retries : Option Nat
deriving DecidableEq

structure Edge where
  source : String
  target : String
  condition : Option String
deriving DecidableEq

structure Graph where
  nodes : List Node
  edges : List Edge
  onError : Option String
deriving DecidableEq

namespace Edge

/-- The expression of the branch that an edge starts; the empty expression starts none. -/
def branch? (edge : Edge) : Option String := edge.condition.filter (· != "")

end Edge

namespace Graph

def ids (graph : Graph) : List String := graph.nodes.map Node.id

def node? (graph : Graph) (id : String) : Option Node := graph.nodes.find? (·.id == id)

def outgoing (graph : Graph) (id : String) : List Edge := graph.edges.filter (·.source == id)

def incoming (graph : Graph) (id : String) : List Edge := graph.edges.filter (·.target == id)

end Graph

end Flowplan

namespace Flowplan.ModuleId

def isIdChar (c : Char) : Bool := c.isAlphanum || c == '_'

def idChar (c : Char) : Char := if isIdChar c then c else '_'

def ofChars (id : List Char) : List Char := id.map idChar

def ofId (id : String) : String := String.ofList (ofChars id.toList)

theorem idChar_idChar (c : Char) : idChar (idChar c) = idChar c := by
  by_cases h : isIdChar c
  · simp [idChar, h]
  · have : isIdChar '_' = true := by decide
    simp [idChar, h, this]

@[simp] theorem ofId_ofId (id : String) : ofId (ofId id) = ofId id := by
  simp [ofId, ofChars, Function.comp_def, idChar_idChar]

end Flowplan.ModuleId

namespace Flowplan.Reference

def mark : List Char := "$ref:".toList

def flowInput : List Char := "flow_input".toList

def path (reference : String) : List Char := reference.toList.drop mark.length

def isReference : Json → Bool
  | .str s => mark.isPrefixOf s.toList
  | _ => false

def isFlowInput : Json → Bool
  | .str s => (mark ++ flowInput).isPrefixOf s.toList
  | _ => false

def target (reference : String) : String := String.ofList (Text.cut '.' (path reference)).1

def inputField? : Json → Option String
  | .str s =>
    let start := mark ++ flowInput ++ ['.']
    if start.isPrefixOf s.toList then
      some (String.ofList (Text.cut '.' (s.toList.drop start.length)).1)
    else none
  | _ => none

end Flowplan.Reference
