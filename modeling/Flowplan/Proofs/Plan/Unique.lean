import Flowplan.Proofs.Plan.Compiled
import Flowplan.Proofs.Plan.Exclusive

namespace Flowplan.Graph

open Compile

variable {registry : Registry} {graph : Graph} {name : String} {plan : Plan} {node : Node}

theorem map_id_failure (hcompile : graph.compile registry name = .ok plan) :
    (Plan.preorder plan.failure.toList).map Module.id = [] ∨ ∃ node, graph.handler = some node ∧
      (Plan.preorder plan.failure.toList).map Module.id = [ModuleId.ofId node.id] := by
  rcases (compile_eq_ok hcompile).2 with ⟨node, hhandler, hfailure⟩ | ⟨_, hfailure⟩
  · rcases failureModule_eq_ok hfailure with hfailure | ⟨path, params, directives, hfailure⟩
    · exact .inl (by simp [hfailure, Plan.preorder])
    · refine .inr ⟨node, hhandler, ?_⟩
      simp [hfailure, Plan.preorder, Plan.preorderOf, Plan.preorderBody, Module.id]
  · exact .inl (by simp [hfailure, Plan.preorder])

theorem map_id_allModules (hcompile : graph.compile registry name = .ok plan) :
    plan.allModules.map Module.id =
      ((graph.sites registry).map fun spot => ModuleId.ofId spot.2.id) ++
        (Plan.preorder plan.failure.toList).map Module.id := by
  rw [Plan.allModules, Plan.preorder_append, List.map_append, map_id_preorder hcompile]

theorem mem_mainOrder_of_mem_sites {spot : Spot} (h : spot ∈ graph.sites registry) :
    spot.2 ∈ graph.mainOrder := (mem_sites.mp h).1.mem

theorem nodup_sites (hvalid : graph.isValid registry = true) : (graph.sites registry).Nodup :=
  (pairwise_sites graph registry).imp fun h heq => (heq ▸ h).asymm (sorted hvalid) (heq ▸ h)

theorem nodup_map_sites_iff (hvalid : graph.isValid registry = true) :
    ((graph.sites registry).map fun spot => ModuleId.ofId spot.2.id).Nodup ↔
      ∀ node path path', hasModule registry node = true → graph.Stands registry path node →
        graph.Stands registry path' node → path = path' := by
  rw [List.nodup_map_iff_inj_on (nodup_sites hvalid)]
  constructor
  · intro hinj node path path' hmodule hpath hpath'
    have heq := hinj (path, node) (mem_sites.mpr ⟨hpath, hmodule⟩) (path',
      node) (mem_sites.mpr ⟨hpath', hmodule⟩) rfl
    exact congrArg Prod.fst heq
  · rintro hunique ⟨path, first⟩ hfirst ⟨path', second⟩ hsecond hid
    have hmem := ((mem_mainOrder hvalid).mp (mem_mainOrder_of_mem_sites hfirst)).1
    have hmem' := ((mem_mainOrder hvalid).mp (mem_mainOrder_of_mem_sites hsecond)).1
    obtain rfl : first = second := id_eq_of_ofId_eq hvalid hmem hmem' hid
    obtain ⟨hstands, hmodule⟩ := mem_sites.mp hfirst
    rw [hunique first path path' hmodule hstands (mem_sites.mp hsecond).1]

theorem ofId_handler_notMem (hvalid : graph.isValid registry = true)
    (h : graph.handler = some node) :
    ModuleId.ofId node.id ∉ (graph.sites registry).map fun spot => ModuleId.ofId spot.2.id := by
  intro hmem
  obtain ⟨spot, hspot, hid⟩ := List.mem_map.mp hmem
  obtain ⟨hnode, hhandler⟩ := mem_nodes_of_handler h
  obtain ⟨hspot, hmain⟩ := (mem_mainOrder hvalid).mp (mem_mainOrder_of_mem_sites hspot)
  obtain rfl : spot.2 = node := id_eq_of_ofId_eq hvalid hspot hnode hid
  exact hmain hhandler

theorem nodup_allModules_iff_nodup_map_sites (hvalid : graph.isValid registry = true)
    (hcompile : graph.compile registry name = .ok plan) : (plan.allModules.map Module.id).Nodup ↔
      ((graph.sites registry).map fun spot => ModuleId.ofId spot.2.id).Nodup := by
  rw [map_id_allModules hcompile]
  rcases map_id_failure hcompile with hfailure | ⟨node, hhandler, hfailure⟩
  · rw [hfailure, List.append_nil]
  · rw [hfailure, ← List.concat_eq_append, List.nodup_concat]
    exact and_iff_right (ofId_handler_notMem hvalid hhandler)

theorem map_id_allModules_subset (hvalid : graph.isValid registry = true)
    (hcompile : graph.compile registry name = .ok plan) :
    plan.allModules.map Module.id ⊆ graph.nodes.map fun node => ModuleId.ofId node.id := by
  rw [map_id_allModules hcompile]
  intro id hid
  rcases List.mem_append.mp hid with hid | hid
  · obtain ⟨spot, hspot, rfl⟩ := List.mem_map.mp hid
    exact List.mem_map_of_mem ((mem_mainOrder hvalid).mp (mem_mainOrder_of_mem_sites hspot)).1
  · rcases map_id_failure hcompile with hfailure | ⟨node, hhandler, hfailure⟩
    · simp [hfailure] at hid
    · rw [hfailure, List.mem_singleton] at hid
      exact hid ▸ List.mem_map_of_mem (mem_nodes_of_handler hhandler).1

/-- No module id occurs twice in a plan exactly when every step with a module stands at one place
at most, as it does where bodies are exclusive; then there are at most as many modules as steps. -/
theorem nodup_allModules_iff (hvalid : graph.isValid registry = true)
    (hcompile : graph.compile registry name = .ok plan) :
    ((plan.allModules.map Module.id).Nodup ↔
      ∀ node path path', hasModule registry node = true → graph.Stands registry path node →
        graph.Stands registry path' node → path = path') ∧
    ((plan.allModules.map Module.id).Nodup → plan.allModules.length ≤ graph.nodes.length) ∧
    (Exclusive (graph.compileContext registry) → (plan.allModules.map Module.id).Nodup) := by
  have hiff : (plan.allModules.map Module.id).Nodup ↔ ∀ node path path',
      hasModule registry node = true →
      graph.Stands registry path node → graph.Stands registry path' node → path = path' := by
    rw [nodup_allModules_iff_nodup_map_sites hvalid hcompile, nodup_map_sites_iff hvalid]
  refine ⟨hiff, ?_, ?_⟩
  · intro hnodup
    have hsubperm := hnodup.subperm (map_id_allModules_subset hvalid hcompile)
    simpa using hsubperm.length_le
  · intro hexclusive
    refine hiff.mpr fun node path path' _ hpath hpath' => ?_
    exact hexclusive.path_unique (sorted hvalid) (List.Subset.refl _) hpath hpath'

def singleBranch : Graph where
  nodes := [.bare "check" StepType.condition, .bare "send" "http.call"]
  edges := [⟨"check", "send", some "flow_input.a"⟩]
  onError := none

theorem length_allModules_singleBranch : singleBranch.isValid .builtIn = true ∧
    ∃ plan, singleBranch.compile .builtIn "x" = .ok plan ∧ plan.allModules.length ≤ 2 := by
  have hvalid : singleBranch.isValid .builtIn = true := by decide
  have hunique := @nodup_allModules_iff .builtIn singleBranch "x" _ hvalid rfl
  exact ⟨hvalid, _, rfl, hunique.2.1 (hunique.2.2 (by decide))⟩

def doubleBranch : Graph where
  nodes := [.bare "check" StepType.condition, .bare "send" "http.call"]
  edges := [⟨"check", "send", some "flow_input.a"⟩, ⟨"check", "send", some "flow_input.b"⟩]
  onError := none

theorem repeated_doubleBranch : doubleBranch.isValid .builtIn = true ∧
    ∃ plan, doubleBranch.compile .builtIn "x" = .ok plan ∧
      ¬ (plan.allModules.map Module.id).Nodup ∧
      doubleBranch.nodes.length < plan.allModules.length := by
  refine ⟨by decide, _, rfl, ?_, ?_⟩
  · decide
  · decide

end Flowplan.Graph
