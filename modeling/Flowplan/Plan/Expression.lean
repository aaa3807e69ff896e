import Flowplan.Graph.Basic
import Flowplan.Text.Word

namespace Flowplan.Expression

def results : List Char := "results".toList

def accesses : List (List Char) → List Char
  | [] => []
  | first :: rest => '.' :: first ++ rest.flatMap fun segment => '?' :: '.' :: segment

/-- The expression of a path: a run input as it stands, otherwise the output of a step. The segment
`output` only names the output and leads nowhere. -/
def ofPath (path : List Char) : List Char :=
  if path == Reference.flowInput || (Reference.flowInput ++ ['.']).isPrefixOf path then path
  else
    match Text.segments '.' path with
    | [] => results
    | step :: rest =>
      results ++ '.' :: ModuleId.ofChars step ++ accesses (rest.filter (· != "output".toList))

def ofReference (reference : String) : String := String.ofList (ofPath (Reference.path reference))

def access : List Char := results ++ ['.']

def continuesId (c : Char) : Bool := c.isAlphanum || c == '_' || c == '-'

def standsAt (text id : List Char) : Bool :=
  id.isPrefixOf text && !((text.drop id.length).head?.any continuesId)

def longest : List (List Char) → Option (List Char)
  | [] => none
  | id :: rest =>
    match longest rest with
    | some other => some (if id.length < other.length then other else id)
    | none => some id

/-- The id to rename at a place, given the character before it: the longest one that stands after an
access that starts a word. -/
def renamedAt (ids : List (List Char)) (before : Option Char) (text : List Char) :
    Option (List Char) :=
  if access.isPrefixOf text && !before.any Text.isWord then
    longest (ids.filter (standsAt (text.drop access.length)))
  else none

/-- Renames ids from left to right. While `skipped` is positive the
text belongs to a renamed access. -/
def rename (ids : List (List Char)) : Nat → Option Char → List Char → List Char
  | _, _, [] => []
  | skipped + 1, _, c :: text => rename ids skipped (some c) text
  | 0, before, c :: text =>
    match renamedAt ids before (c :: text) with
    | some id =>
      access ++ ModuleId.ofChars id ++ rename ids (access.length + id.length - 1) (some c) text
    | none => c :: rename ids 0 (some c) text

def renamed (ids : List String) : List (List Char) :=
  (ids.map String.toList).filter fun id => ModuleId.ofChars id != id

def normalize (expr : String) (ids : List String) : String :=
  String.ofList (rename (renamed ids) 0 none expr.toList)

end Flowplan.Expression
