import Flowplan.Proofs.Graph.Document
import Flowplan.Proofs.Plan.Bodies
import Flowplan.Proofs.Plan.Compiled

namespace Flowplan.Graph

open Compile

variable {registry : Registry} {graph : Graph} {name : String} {plan : Plan}

theorem compiles (h : graph.compile registry name = .ok plan) :
    Compiles (graph.compileContext registry) graph.mainOrder plan.modules :=
  ⟨_, Nat.le_refl _, (compile_eq_ok h).1⟩

theorem eq_of_ofId_eq (hvalid : graph.isValid registry = true) {node other : Node}
    (hnode : node ∈ graph.mainOrder) (hother : other ∈ graph.nodes)
    (heq : ModuleId.ofId node.id = ModuleId.ofId other.id) : node = other :=
  id_eq_of_ofId_eq hvalid ((mem_mainOrder hvalid).mp hnode).1 hother heq

structure Nested (registry : Registry) (graph : Graph) (plan : Plan) : Prop where
  bodies : ∀ m ∈ Plan.preorder plan.modules, ∃ construct ∈ graph.mainOrder,
    Built (graph.compileContext registry) (fun slot body => ∀ inner ∈ Plan.preorder body,
      (∃ node ∈ graph.mainOrder, inner.id = ModuleId.ofId node.id ∧
        node.id ∈ slot.steps (graph.compileContext registry)) ∧
      (construct.kind = StepType.condition → ∀ edge ∈ graph.edges, edge.source = construct.id →
        edge.branch? = none → inner.id ≠ ModuleId.ofId edge.target)) construct m
  top : ∀ node ∈ graph.mainOrder, (∃ m ∈ plan.modules, m.id = ModuleId.ofId node.id) ↔
    (∀ construct ∈ graph.mainOrder, ¬ Claims (graph.compileContext registry) construct node) ∧
      hasModule registry node = true
  lists : ∀ ms ∈ plan.lists, ∃ nodes : List Node,
    nodes.Sublist (topologicalOrder graph.nodes graph.edges) ∧
    (nodes.map Node.id).Nodup ∧ ms.map Module.id = nodes.map fun node => ModuleId.ofId node.id
  handler : ∀ id, graph.onError = some id → ∀ m ∈ Plan.preorder plan.modules,
    m.id ≠ ModuleId.ofId id

theorem exists_nodes (hvalid : graph.isValid registry = true) {part : List Node} {ms : List Module}
    (hpart : part.Sublist graph.mainOrder) (h : Compiles (graph.compileContext registry) part ms) :
    ∃ nodes : List Node, nodes.Sublist (topologicalOrder graph.nodes graph.edges) ∧
      (nodes.map Node.id).Nodup ∧
      ms.map Module.id = nodes.map fun node => ModuleId.ofId node.id := by
  have hmain : ((unclaimed (graph.compileContext registry) part).filter
      (hasModule registry)).Sublist graph.mainOrder :=
    List.filter_sublist.trans (List.filter_sublist.trans hpart)
  exact ⟨_, hmain.trans (mainOrder_sublist graph),
    (sorted hvalid).nodup.sublist (hmain.map Node.id), h.map_id⟩

theorem notMem_mainOrder_of_onError {document : Json} (hread : Graph.read document = .good graph)
    (hvalid : graph.isValid registry = true) {node : Node} (h : graph.onError = some node.id) :
    node ∉ graph.mainOrder := by
  intro hmem
  obtain ⟨hnode, hhandler⟩ := (mem_mainOrder hvalid).mp hmem
  exact hhandler (by simpa [handlerId, h] using id_ne_empty_of_read hread hnode)

/-- The plan of a valid graph is nested as its scopes are. -/
theorem nested_of_compile {document : Json} (hread : Graph.read document = .good graph)
    (hvalid : graph.isValid registry = true) (hcompile : graph.compile registry name = .ok plan) :
    graph.Nested registry plan where
  bodies := by
    intro m hm
    obtain ⟨path, construct, hstands, _, hbuilt⟩ := (compiles hcompile).exists_stands hm
    refine ⟨construct, hstands.mem, hbuilt.imp fun slot hslot body hcompiles inner hinner => ?_⟩
    obtain ⟨_, node, hinside, _, hnode⟩ := hcompiles.exists_stands hinner
    obtain ⟨hscope, hid⟩ := mem_within.mp hinside.mem
    have hmain := (scopeAt_sublist graph.mainOrder path).subset hscope
    refine ⟨⟨node, hmain, hnode.id_eq, hid⟩, ?_⟩
    intro hcondition edge he hsource hbranch heq
    obtain ⟨target, htarget, heq'⟩ := List.mem_map.mp (mem_ids_of_edge hvalid he).2
    obtain rfl : node = target :=
      eq_of_ofId_eq hvalid hmain htarget (by rw [← hnode.id_eq, heq, heq'])
    refine notMem_afterBranches_of_mem_steps hcondition hslot hid ?_
    exact List.mem_map.mpr ⟨edge, List.mem_filter.mpr ⟨he, by simp [hsource, hbranch]⟩, heq'.symm⟩
  top := by
    intro node hnode
    constructor
    · rintro ⟨m, hm, hid⟩
      obtain ⟨other, hfree, hmodule, hbuilt⟩ := (compiles hcompile).exists_step hm
      obtain rfl : other = node := eq_of_ofId_eq hvalid hfree.1 ((mem_mainOrder hvalid).mp hnode).1
        (hbuilt.id_eq.symm.trans hid)
      exact ⟨hfree.2, hmodule⟩
    · rintro ⟨hclaims, hmodule⟩
      obtain ⟨m, hm, hbuilt⟩ := (compiles hcompile).exists_module ⟨hnode, hclaims⟩ hmodule
      exact ⟨m, hm, hbuilt.id_eq⟩
  lists := by
    intro ms hms
    rcases List.mem_cons.mp hms with rfl | hms
    · exact exists_nodes hvalid (List.Sublist.refl _) (compiles hcompile)
    · obtain ⟨m, hm, hbody⟩ := List.mem_flatMap.mp hms
      obtain ⟨part, hpart, hcompiles⟩ := (compiles hcompile).exists_part hm hbody
      exact exists_nodes hvalid hpart hcompiles
  handler := by
    intro id honError m hm heq
    obtain ⟨path, node, hstands, _, hbuilt⟩ := (compiles hcompile).exists_stands hm
    obtain ⟨handler, hhandler, rfl⟩ := List.mem_map.mp (mem_ids_of_onError hvalid honError)
    obtain rfl : node = handler :=
      eq_of_ofId_eq hvalid hstands.mem hhandler (hbuilt.id_eq.symm.trans heq)
    exact notMem_mainOrder_of_onError hread hvalid honError hstands.mem

def loopInBranch : Graph where
  nodes := [
    .bare "check" StepType.condition, .bare "each" StepType.forEach, .bare "send" "http.call",
    .bare "notify" "http.call", .bare "alert" "http.call"]
  edges := [
    ⟨"check", "each", some "flow_input.a"⟩, ⟨"each", "send", none⟩, ⟨"check", "notify", none⟩]
  onError := some "alert"

theorem nested_loopInBranch : Graph.read loopInBranch.write = .good loopInBranch ∧
    loopInBranch.isValid .builtIn = true ∧
    ∃ plan, loopInBranch.compile .builtIn "x" = .ok plan ∧ loopInBranch.Nested .builtIn plan := by
  have hread : Graph.read loopInBranch.write = .good loopInBranch := rfl
  have hvalid : loopInBranch.isValid .builtIn = true := by decide
  exact ⟨hread, hvalid, _, rfl, nested_of_compile hread hvalid rfl⟩

end Flowplan.Graph
