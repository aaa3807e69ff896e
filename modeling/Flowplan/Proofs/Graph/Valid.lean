import Flowplan.Graph.Defect
import Flowplan.Proofs.Graph.Cycle
import Flowplan.Proofs.Graph.Order

namespace Flowplan.Graph

variable {registry : Registry} {graph : Graph}

theorem repeatedIds_eq_nil_iff {seen ids : List String} :
    repeatedIds seen ids = [] ↔ ids.Nodup ∧ ∀ id ∈ ids, id ∉ seen := by
  induction ids generalizing seen with
  | nil => simp [repeatedIds]
  | cons id ids ih =>
    by_cases h : id ∈ seen
    · simp [repeatedIds, h]
    · simp only [repeatedIds, List.contains_eq_mem, h, decide_false, Bool.false_eq_true,
        if_false, ih, List.nodup_cons, List.forall_mem_cons]
      grind

theorem clashes_eq_nil_iff {seen ids : List String}
    (hseen : ∀ a ∈ seen, ∀ b ∈ seen, ModuleId.ofId a = ModuleId.ofId b → a = b) :
    clashes seen ids = [] ↔
      ∀ a ∈ seen ++ ids, ∀ b ∈ ids, ModuleId.ofId a = ModuleId.ofId b → a = b := by
  induction ids generalizing seen with
  | nil => simp [clashes]
  | cons id ids ih =>
    by_cases h : id ∈ seen
    · simp only [clashes, List.contains_eq_mem, h, decide_true, if_true, ih hseen]
      grind
    · simp only [clashes, List.contains_eq_mem, h, decide_false, Bool.false_eq_true, if_false]
      cases hfound : seen.find? fun other => ModuleId.ofId other == ModuleId.ofId id with
      | some other =>
        have hmem := List.mem_of_find?_eq_some hfound
        have heq : ModuleId.ofId other = ModuleId.ofId id := by simpa using List.find?_some hfound
        simp only [List.cons_ne_nil, false_iff, not_forall]
        exact ⟨other, by simp [hmem], id, by simp, heq, fun hother => h (hother ▸ hmem)⟩
      | none =>
        have hnone : ∀ other ∈ seen, ModuleId.ofId other ≠ ModuleId.ofId id := by
          simpa using List.find?_eq_none.mp hfound
        rw [ih (by grind)]
        grind

theorem looseEnds_eq_nil_iff :
    graph.looseEnds = [] ↔ ∀ edge ∈ graph.edges, edge.source ∈ graph.ids ∧
      edge.target ∈ graph.ids := by
  simp only [looseEnds, List.flatMap_eq_nil_iff, List.append_eq_nil_iff]
  grind

theorem unknownHandler_eq_nil_iff :
    graph.unknownHandler = [] ↔ ∀ id, graph.onError = some id → id ∈ graph.ids := by
  cases h : graph.onError <;> simp [unknownHandler, h]

theorem isValid_iff_checks : graph.isValid registry = true ↔
    repeatedIds [] graph.ids = [] ∧ graph.unknownTypes registry = [] ∧ graph.looseEnds = [] ∧
      hasCycle graph.nodes graph.edges = false ∧
      (∀ node ∈ graph.nodes, graph.brokenReferences node = []) ∧
      graph.lacksEntry = false ∧ graph.unknownHandler = [] ∧ clashes [] graph.ids = [] := by
  simp [isValid, defects]

theorem nodup_ids (h : graph.isValid registry = true) : (graph.nodes.map Node.id).Nodup :=
  (repeatedIds_eq_nil_iff.mp (isValid_iff_checks.mp h).1).1

theorem mem_ids_of_edge (h : graph.isValid registry = true) {edge : Edge}
    (he : edge ∈ graph.edges) :
    edge.source ∈ graph.nodes.map Node.id ∧ edge.target ∈ graph.nodes.map Node.id := by
  obtain ⟨_, _, hends, _⟩ := isValid_iff_checks.mp h
  exact looseEnds_eq_nil_iff.mp hends edge he

theorem mem_ids_of_onError (h : graph.isValid registry = true) {id : String}
    (honError : graph.onError = some id) : id ∈ graph.nodes.map Node.id := by
  obtain ⟨_, _, _, _, _, _, hhandler, _⟩ := isValid_iff_checks.mp h
  exact unknownHandler_eq_nil_iff.mp hhandler id honError

theorem hasCycle_eq_false (h : graph.isValid registry = true) :
    hasCycle graph.nodes graph.edges = false := (isValid_iff_checks.mp h).2.2.2.1

theorem id_eq_of_ofId_eq (h : graph.isValid registry = true) {first second : Node}
    (hfirst : first ∈ graph.nodes) (hsecond : second ∈ graph.nodes)
    (heq : ModuleId.ofId first.id = ModuleId.ofId second.id) : first = second := by
  obtain ⟨_, _, _, _, _, _, _, hclashes⟩ := isValid_iff_checks.mp h
  have hids := (clashes_eq_nil_iff (by simp)).mp hclashes first.id (List.mem_map_of_mem hfirst)
    second.id (List.mem_map_of_mem hsecond) heq
  exact List.inj_on_of_nodup_map (nodup_ids h) hfirst hsecond hids

theorem mem_topologicalOrder (h : graph.isValid registry = true) {node : Node}
    (hnode : node ∈ graph.nodes) : node ∈ topologicalOrder graph.nodes graph.edges := by
  obtain ⟨arrangement, hnodup, hids, hforward⟩ := exists_arrangement (hasCycle_eq_false h)
  refine Flowplan.mem_topologicalOrder (nodup_ids h) (fun edge he => (mem_ids_of_edge h he).1)
    hnodup hids ?_ hnode
  intro edge he htarget
  exact hforward edge he (mem_ids_of_edge h he).1 htarget

end Flowplan.Graph
