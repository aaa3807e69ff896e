import Flowplan.Proofs.Graph.Acyclic
import Flowplan.Proofs.Graph.Reference
import Flowplan.Proofs.Graph.Valid

namespace Flowplan.Graph

open Relation

variable {registry : Registry} {graph : Graph}

def Leads (graph : Graph) (a b : String) : Prop :=
  ∃ edge ∈ graph.edges, edge.source = a ∧ edge.target = b

structure WellFormed (registry : Registry) (graph : Graph) : Prop where
  nodup : graph.ids.Nodup
  types : ∀ node ∈ graph.nodes, node.kind ∈ registry.entries.names
  ends : ∀ edge ∈ graph.edges, edge.source ∈ graph.ids ∧ edge.target ∈ graph.ids
  acyclic : ∀ id, ¬ TransGen graph.Leads id id
  references : ∀ node ∈ graph.nodes, ∀ input text name, (input, Json.str text) ∈ node.inputs →
    Reference.Names text name → ¬ Reference.mark ++ Reference.flowInput <+: text.toList →
    name ∈ graph.ids
  handler : ∀ id, graph.onError = some id → id ∈ graph.ids
  moduleIds : ∀ a ∈ graph.ids, ∀ b ∈ graph.ids, ModuleId.ofId a = ModuleId.ofId b → a = b

theorem unknownTypes_eq_nil_iff : graph.unknownTypes registry = [] ↔
    ∀ node ∈ graph.nodes, node.kind ∈ registry.entries.names := by
  simp only [unknownTypes, List.map_eq_nil_iff, List.filter_eq_nil_iff, Bool.not_eq_true',
    Bool.not_eq_false, Registry.isKnown, Registry.binding?, List.lookup_isSome_iff, Entries.names,
    List.mem_map, beq_iff_eq]
  grind

theorem leads_iff (hends : ∀ edge ∈ graph.edges, edge.source ∈ graph.ids ∧ edge.target ∈ graph.ids)
    {a b : String} : graph.Leads a b ↔ Cycle.Leads graph.ids graph.edges a b := by
  rw [Leads, Cycle.Leads, Cycle.mem_successors]
  grind

theorem hasCycle_eq_false_iff
    (hends : ∀ edge ∈ graph.edges, edge.source ∈ graph.ids ∧ edge.target ∈ graph.ids) :
    hasCycle graph.nodes graph.edges = false ↔ ∀ id, ¬ TransGen graph.Leads id id := by
  have hleads : graph.Leads = Cycle.Leads graph.ids graph.edges := by
    funext a b
    exact propext (leads_iff hends)
  rw [hleads]
  constructor
  · exact acyclic_of_hasCycle_eq_false
  · intro hacyclic
    refine Bool.eq_false_iff.mpr fun hcycle => ?_
    obtain ⟨id, hid⟩ := exists_cycle_of_hasCycle hcycle
    exact hacyclic id hid

theorem lacksEntry_eq_false (hcycle : hasCycle graph.nodes graph.edges = false)
    (hends : ∀ edge ∈ graph.edges, edge.source ∈ graph.ids) : graph.lacksEntry = false := by
  rw [lacksEntry, Bool.and_eq_false_iff]
  by_cases hnodes : graph.nodes = []
  · exact .inl (by simp [hnodes])
  · obtain ⟨node, hnode, hentry⟩ := exists_entry hcycle hnodes hends
    refine .inr (List.all_eq_false.mpr ⟨node, hnode, ?_⟩)
    simpa using hentry

theorem noEntry_notMem_looseEnds (graph : Graph) : .noEntry ∉ graph.looseEnds := by
  simp only [looseEnds, List.mem_flatMap, List.mem_append]
  grind

theorem noEntry_notMem_brokenReferences (graph : Graph) (node : Node) :
    .noEntry ∉ graph.brokenReferences node := by
  intro hmem
  obtain ⟨⟨input, value⟩, _, hdefect⟩ := List.mem_filterMap.mp hmem
  cases value <;> grind

theorem noEntry_notMem_clashes (seen ids : List String) : .noEntry ∉ clashes seen ids := by
  induction ids generalizing seen with
  | nil => simp [clashes]
  | cons id ids ih =>
    rw [clashes]
    split
    · exact ih seen
    · split <;> simp [ih]

theorem noEntry_mem_defects_iff : .noEntry ∈ graph.defects registry ↔ graph.lacksEntry = true := by
  have hhandler : .noEntry ∉ graph.unknownHandler := by
    cases h : graph.onError <;> simp [unknownHandler, h]
  simp [defects, unknownTypes, hhandler, noEntry_notMem_looseEnds, noEntry_notMem_brokenReferences,
    noEntry_notMem_clashes]

theorem exists_defect_ne_noEntry (h : graph.lacksEntry = true) :
    ∃ defect ∈ graph.defects registry, defect ≠ .noEntry := by
  by_contra! halone
  have hends : graph.looseEnds = [] := by
    refine List.eq_nil_iff_forall_not_mem.mpr fun defect hdefect => ?_
    have hnoEntry := halone defect (by simp [defects, hdefect])
    exact noEntry_notMem_looseEnds graph (hnoEntry ▸ hdefect)
  have hcycle : hasCycle graph.nodes graph.edges = false := by
    refine Bool.eq_false_iff.mpr fun hcycle => ?_
    have hnoEntry := halone .cycle (by simp [defects, hcycle])
    cases hnoEntry
  have hentry := lacksEntry_eq_false hcycle fun edge he => (looseEnds_eq_nil_iff.mp hends edge he).1
  exact Bool.eq_false_iff.mp hentry h

/-- A graph is valid against the registry in effect exactly when it is well formed. A
graph that lacks an entry has another defect. -/
theorem isValid_iff_wellFormed (offered : Option Registry) (graph : Graph) :
    (graph.isValid (.effective offered) = true ↔ WellFormed (.effective offered) graph) ∧
    (.noEntry ∈ graph.defects (.effective offered) →
      ∃ defect ∈ graph.defects (.effective offered), defect ≠ .noEntry) := by
  constructor
  · rw [isValid_iff_checks]
    constructor
    · rintro ⟨hids, htypes, hends, hcycle, hreferences, _, hhandler, hmodules⟩
      have hends := looseEnds_eq_nil_iff.mp hends
      exact {
        nodup := (repeatedIds_eq_nil_iff.mp hids).1
        types := unknownTypes_eq_nil_iff.mp htypes
        ends := hends
        acyclic := (hasCycle_eq_false_iff hends).mp hcycle
        references := fun node hnode => brokenReferences_eq_nil_iff.mp (hreferences node hnode)
        handler := unknownHandler_eq_nil_iff.mp hhandler
        moduleIds := (clashes_eq_nil_iff (by simp)).mp hmodules }
    · intro h
      have hcycle := (hasCycle_eq_false_iff h.ends).mpr h.acyclic
      refine ⟨repeatedIds_eq_nil_iff.mpr ⟨h.nodup, by simp⟩, unknownTypes_eq_nil_iff.mpr h.types,
        looseEnds_eq_nil_iff.mpr h.ends, hcycle, ?_, lacksEntry_eq_false hcycle fun edge he =>
          (h.ends edge he).1,
        unknownHandler_eq_nil_iff.mpr h.handler, (clashes_eq_nil_iff (by simp)).mpr h.moduleIds⟩
      exact fun node hnode => brokenReferences_eq_nil_iff.mpr (h.references node hnode)
  · exact fun hentry => exists_defect_ne_noEntry (noEntry_mem_defects_iff.mp hentry)

end Flowplan.Graph
