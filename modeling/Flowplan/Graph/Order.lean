import Flowplan.Graph.Basic

/-!
# Order, cycles and scopes of a graph

Steps are taken from a queue; taking one releases an edge to each of its successors, and a
step joins the queue when the last of its incoming edges is released. A depth-first search
keeps the path from its root on a stack, so that an edge back into the path closes a cycle.
To a branch of a condition or the body of a loop belong the steps that it leads to directly,
and those that only steps of the scope lead to.
-/

namespace Flowplan

namespace Edge

def indegree (edges : List Edge) (id : String) : Nat := edges.countP (·.target == id)

def successors (edges : List Edge) (id : String) : List String :=
  (edges.filter (·.source == id)).map Edge.target

end Edge

namespace Order

/-- The ids whose last incoming edge is released by releasing one edge to each target in turn,
and the targets of all edges released so far. -/
def release (edges : List Edge) : List String → List String → List String × List String
  | [], released => ([], released)
  | id :: targets, released =>
    let (ready, all) := release edges targets (id :: released)
    if (id :: released).count id == Edge.indegree edges id then (id :: ready, all) else (ready, all)

/-- Takes ids from the queue, at most `fuel` of them. Only the edges of known ids are released. -/
def drain (known : List String) (edges : List Edge) : Nat → List String → List String → List String
  | 0, _, _ => []
  | _ + 1, [], _ => []
  | fuel + 1, id :: queue, released =>
    let targets := if known.contains id then Edge.successors edges id else []
    let (ready, released) := release edges targets released
    id :: drain known edges fuel (queue ++ ready) released

/-- The ids in topological order. Each id enters the queue once for every time it is listed without
an incoming edge, and once more when its last edge is released, so the bound is never reached. -/
def orderedIds (nodes : List Node) (edges : List Edge) : List String :=
  let known := nodes.map Node.id
  drain known edges (nodes.length + edges.length) (known.filter (Edge.indegree edges · == 0)) []

end Order

/-- The steps in topological order. A step on a cycle, or behind one, is left out. -/
def topologicalOrder (nodes : List Node) (edges : List Edge) : List Node :=
  (Order.orderedIds nodes edges).filterMap fun id => nodes.reverse.find? (·.id == id)

namespace Cycle

abbrev Frame := String × List String

/-- Searches on from a path. The answer is `none` when an edge leads back into the path,
and otherwise the ids that have been visited. -/
def search (known : List String) (edges : List Edge) :
    Nat → List Frame → List String → Option (List String)
  | _, [], visited => some visited
  | 0, _ :: _, visited => some visited
  | fuel + 1, (_, []) :: path, visited => search known edges fuel path visited
  | fuel + 1, (id, next :: rest) :: path, visited =>
    if next == id || path.any (·.1 == next) then none
    else if !visited.contains next && known.contains next then
      search known edges fuel ((next, Edge.successors edges next) :: (id, rest) :: path)
        (next :: visited)
    else search known edges fuel ((id, rest) :: path) visited

/-- Searches from an id unless it has been visited. Every id is entered once and every edge
tried once, so the bound is never reached. -/
def searchFrom (nodes : List Node) (edges : List Edge) (visited : List String) (id : String) :
    Option (List String) :=
  if visited.contains id then some visited
  else
    search (nodes.map Node.id) edges (nodes.length + edges.length) [(id, Edge.successors edges id)]
      (id :: visited)

end Cycle

def hasCycle (nodes : List Node) (edges : List Edge) : Bool :=
  ((nodes.map Node.id).foldlM (Cycle.searchFrom nodes edges) []).isNone

end Flowplan

namespace Flowplan.Scope

def expressions (edges : List Edge) (id : String) : List String :=
  ((edges.filter (·.source == id)).filterMap Edge.branch?).foldl
    (fun seen expr => if seen.contains expr then seen else seen ++ [expr]) []

def branchRoots (edges : List Edge) (id expr : String) : List String :=
  (edges.filter fun edge => edge.source == id && edge.branch? == some expr).map Edge.target

def afterBranches (edges : List Edge) (id : String) : List String :=
  (edges.filter fun edge => edge.source == id && edge.branch?.isNone).map Edge.target

/-- Whether a step has incoming edges and all of them start at places of which `inside` holds. -/
def fedFrom (edges : List Edge) (inside : String → Bool) (id : String) : Bool :=
  let incoming := edges.filter (·.target == id)
  !incoming.isEmpty && incoming.all fun edge => inside edge.source

def collect (belongs : List String → String → Bool) (ids : List String) : List String :=
  ids.foldl (fun members id => if !members.contains id && belongs members id then members
    ++ [id] else members) []

def branch (edges : List Edge) (ordered : List Node) (id expr : String) : List String :=
  let roots := branchRoots edges id expr
  let after := afterBranches edges id
  collect (fun members n =>
      n != id && !after.contains n && (roots.contains n || fedFrom edges members.contains n))
    (ordered.map Node.id)

def loop (edges : List Edge) (ordered : List Node) (id : String) : List String :=
  let roots := Edge.target <$> edges.filter (·.source == id)
  collect (fun members n =>
      n != id
        && (roots.contains n
          || fedFrom edges (fun source => source == id || members.contains source) n))
    (ordered.map Node.id)

end Flowplan.Scope
