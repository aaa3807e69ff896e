import Flowplan.Proofs.Graph.LeftOut

namespace Flowplan

open Relation

namespace Cycle

variable {known : List String} {edges : List Edge}

/-- A search goes on from a path until it meets an edge back into the path,
or leaves the path, however long that takes. -/
inductive Explores (known : List String) (edges : List Edge) :
    List Frame → List String → Option (List String) → Prop
  | done (visited) : Explores known edges [] visited (some visited)
  | leave {id path visited found} : Explores known edges path visited found →
    Explores known edges ((id, []) :: path) visited found
  | back {id next rest path visited} : (next = id ∨ ∃ frame ∈ path, frame.1 = next) →
    Explores known edges ((id, next :: rest) :: path) visited none
  | enter {id next rest path visited found} : ¬ (next = id ∨ ∃ frame ∈ path, frame.1 = next) →
    next ∉ visited → next ∈ known →
    Explores known edges ((next, Edge.successors edges next) :: (id, rest) :: path) (next ::
      visited) found →
    Explores known edges ((id, next :: rest) :: path) visited found
  | skip {id next rest path visited found} : ¬ (next = id ∨ ∃ frame ∈ path, frame.1 = next) →
    ¬ (next ∉ visited ∧ next ∈ known) → Explores known edges ((id, rest) :: path) visited found →
    Explores known edges ((id, next :: rest) :: path) visited found

inductive ExploresAll (known : List String) (edges : List Edge) :
    List String → List String → Option (List String) → Prop
  | done (visited) : ExploresAll known edges [] visited (some visited)
  | old {id roots visited found} : id ∈ visited → ExploresAll known edges roots visited found →
    ExploresAll known edges (id :: roots) visited found
  | back {id roots visited} : id ∉ visited →
    Explores known edges [(id, Edge.successors edges id)] (id :: visited) none →
    ExploresAll known edges (id :: roots) visited none
  | next {id roots visited visited' found} : id ∉ visited →
    Explores known edges [(id, Edge.successors edges id)] (id :: visited) (some visited') →
    ExploresAll known edges roots visited' found →
    ExploresAll known edges (id :: roots) visited found

theorem explores_search {fuel : Nat} {path : List Frame} {visited : List String}
    (hfuel : remaining known edges path visited ≤ fuel) :
    Explores known edges path visited (search known edges fuel path visited) := by
  fun_induction search known edges fuel path visited with
  | case1 fuel visited => exact .done visited
  | case2 visited frame path => simp [remaining] at hfuel
  | case3 fuel id path visited ih =>
    refine .leave (ih ?_)
    simp [remaining] at hfuel ⊢
    omega
  | case4 fuel id next rest path visited hback => exact .back (by simpa using hback)
  | case5 fuel id next rest path visited hpath hnew ih =>
    obtain ⟨hvisited, hknown⟩ : next ∉ visited ∧ next ∈ known := by simpa using hnew
    refine .enter (by simpa using hpath) hvisited hknown (ih ?_)
    -- the tries of the new step were counted as long as it was not visited
    rw [remaining_push hknown hvisited]
    simp [remaining] at hfuel ⊢
    omega
  | case6 fuel id next rest path visited hpath hold ih =>
    refine .skip (by simpa using hpath) (by simpa using hold) (ih ?_)
    simp [remaining] at hfuel ⊢
    omega

variable {nodes : List Node}

theorem exploresAll_foldlM (roots visited : List String)
    (hroots : ∀ id ∈ roots, id ∈ nodes.map Node.id) :
    ExploresAll (nodes.map Node.id) edges roots visited
      (roots.foldlM (searchFrom nodes edges) visited) := by
  induction roots generalizing visited with
  | nil => exact .done visited
  | cons id roots ih =>
    obtain ⟨hid, hroots⟩ := List.forall_mem_cons.mp hroots
    rw [List.foldlM_cons, searchFrom]
    by_cases hvisited : id ∈ visited
    · rw [if_pos (by simpa using hvisited)]
      exact .old hvisited (ih visited hroots)
    · rw [if_neg (by simpa using hvisited)]
      have hexplores : Explores (nodes.map Node.id) edges _ _ _ :=
        explores_search (remaining_root_le hid hvisited)
      generalize search (nodes.map Node.id) edges _ _ _ = found at hexplores ⊢
      cases found with
      | none => exact .back hvisited hexplores
      | some visited' => exact .next hvisited hexplores (ih visited' hroots)

end Cycle

open Flowplan.Cycle

variable {nodes : List Node} {edges : List Edge}

theorem hasCycle_iff :
    hasCycle nodes edges = true ↔ ∃ id, TransGen (Leads (nodes.map Node.id) edges) id id := by
  refine ⟨exists_cycle_of_hasCycle, fun ⟨id, hid⟩ => ?_⟩
  by_contra hnone
  exact acyclic_of_hasCycle_eq_false (Bool.eq_false_iff.mpr hnone) id hid

/-- The search for cycles is exact: it comes to its end by itself, and it finds a cycle if and only
if some step leads to itself along edges between the steps that are there. Where ids are different
and edges have known ends, it finds none if and only if the topological order leaves no step out. -/
theorem hasCycle_exact (nodes : List Node) (edges : List Edge) :
    (∃ found, ExploresAll (nodes.map Node.id) edges (nodes.map Node.id) [] found ∧
      hasCycle nodes edges = found.isNone) ∧
    (hasCycle nodes edges = true ↔ ∃ id, TransGen (Leads (nodes.map Node.id) edges) id id) ∧
    ((nodes.map Node.id).Nodup →
      (∀ edge ∈ edges, edge.source ∈ nodes.map Node.id ∧ edge.target ∈ nodes.map Node.id) →
      (hasCycle nodes edges = false ↔ ∀ node ∈ nodes, node ∈ topologicalOrder nodes edges)) := by
  refine ⟨⟨_, exploresAll_foldlM _ [] fun _ hid => hid, rfl⟩, hasCycle_iff, fun hnodup hends => ?_⟩
  rw [← topologicalOrder_perm_iff hnodup, topologicalOrder_perm_iff_acyclic hnodup fun edge he =>
      (hends edge he).1,
    ← Bool.not_eq_true, hasCycle_iff, not_exists]

def diamond : Graph where
  nodes := [plainCall "start", plainCall "left", plainCall "right", plainCall "end"]
  edges := [⟨"start", "left", none⟩, ⟨"start", "right", none⟩, ⟨"left", "end", none⟩,
    ⟨"right", "end", none⟩]
  onError := none

theorem no_step_left_out_diamond :
    ∀ node ∈ diamond.nodes, node ∈ topologicalOrder diamond.nodes diamond.edges := by
  obtain ⟨_, _, hagree⟩ := hasCycle_exact diamond.nodes diamond.edges
  exact (hagree (by decide) (by decide)).mp (by decide)

end Flowplan
