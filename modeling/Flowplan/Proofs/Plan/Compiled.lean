import Flowplan.Proofs.Graph.Valid
import Flowplan.Proofs.Plan.Modules

namespace Flowplan

def Node.bare (id kind : String) : Node := ⟨id, kind, [], [], none⟩

namespace Graph

open Compile

variable {registry : Registry} {graph : Graph} {name : String} {plan : Plan} {node : Node}

theorem mainOrder_eq_filter (graph : Graph) : graph.mainOrder =
    (topologicalOrder graph.nodes graph.edges).filter fun node => graph.handlerId !=
      some node.id := by
  rw [mainOrder]
  cases graph.handlerId with
  | none =>
    symm
    exact List.filter_eq_self.mpr fun _ _ => rfl
  | some id =>
    apply List.filter_congr
    intro node _
    rw [Bool.eq_iff_iff, bne_iff_ne, bne_iff_ne, ne_eq, ne_eq, Option.some_inj, eq_comm]

theorem mainOrder_sublist (graph : Graph) :
    graph.mainOrder.Sublist (topologicalOrder graph.nodes graph.edges) := by
  rw [mainOrder_eq_filter]
  exact List.filter_sublist

theorem mem_mainOrder (h : graph.isValid registry = true) :
    node ∈ graph.mainOrder ↔ node ∈ graph.nodes ∧ graph.handlerId ≠ some node.id := by
  have horder : node ∈ topologicalOrder graph.nodes graph.edges ↔ node ∈ graph.nodes :=
    ⟨mem_of_mem_topologicalOrder, mem_topologicalOrder h⟩
  simp [mainOrder_eq_filter, horder]

theorem sorted (h : graph.isValid registry = true) : Sorted (graph.compileContext registry) where
  nodup := (nodup_topologicalOrder (nodup_ids h)).sublist ((mainOrder_sublist graph).map Node.id)
  forward := by
    intro edge he hsource htarget
    have hids : (graph.compileContext registry).ordered.map Node.id =
        ((topologicalOrder graph.nodes graph.edges).map Node.id).filter fun id => graph.handlerId !=
          some id := by
      rw [List.filter_map, compileContext, mainOrder_eq_filter]
      rfl
    rw [hids] at hsource htarget ⊢
    rw [List.mem_filter] at hsource htarget
    exact (before_topologicalOrder (nodup_ids h) he htarget.1).filter hsource.2 htarget.2

theorem mem_nodes_of_handler (h : graph.handler = some node) :
    node ∈ graph.nodes ∧ graph.handlerId = some node.id := by
  obtain ⟨id, hid, hfound⟩ := Option.bind_eq_some_iff.mp h
  have hnode : node.id = id := by simpa using List.find?_some hfound
  exact ⟨List.mem_of_find?_eq_some hfound, hnode ▸ hid⟩

def sites (graph : Graph) (registry : Registry) : List Spot :=
  Compile.sites (graph.compileContext registry) graph.mainOrder.length graph.mainOrder

def Stands (graph : Graph) (registry : Registry) (path : List Slot) (node : Node) : Prop :=
  Compile.Stands (graph.compileContext registry) graph.mainOrder path node

theorem mem_sites {path : List Slot} :
    (path, node) ∈ graph.sites registry ↔
      graph.Stands registry path node ∧ hasModule registry node = true :=
  Compile.mem_sites (Nat.le_refl _)

theorem compile_eq_ok (h : graph.compile registry name = .ok plan) :
    modules (graph.compileContext registry) graph.mainOrder.length graph.mainOrder =
      .ok plan.modules ∧
      ((∃ node, graph.handler = some node ∧
        failureModule registry graph.ids node = .ok plan.failure) ∨
        graph.handler = none ∧ plan.failure = none) := by
  obtain ⟨ms, hms, h⟩ := bind_eq_ok_iff.mp h
  cases hhandler : graph.handler with
  | none =>
    simp only [hhandler, bind_eq_ok_iff, pure_eq_ok_iff] at h
    obtain ⟨_, rfl, rfl⟩ := h
    exact ⟨hms, .inr ⟨rfl, rfl⟩⟩
  | some node =>
    simp only [hhandler, bind_eq_ok_iff, pure_eq_ok_iff] at h
    obtain ⟨failure, hfailure, rfl⟩ := h
    exact ⟨hms, .inl ⟨node, rfl, hfailure⟩⟩

theorem map_id_preorder (h : graph.compile registry name = .ok plan) :
    (Plan.preorder plan.modules).map Module.id =
      (graph.sites registry).map fun spot => ModuleId.ofId spot.2.id := by
  have hmade := (preorder_modules (compile_eq_ok h).1).imp fun _ _ => Made.id_eq
  rw [← List.forall₂_eq_eq_eq, List.forall₂_map_left_iff, List.forall₂_map_right_iff]
  exact hmade.flip

theorem mem_preorder (h : graph.compile registry name = .ok plan) {id : String} :
    (∃ m ∈ Plan.preorder plan.modules, m.id = id) ↔
      ∃ path node, graph.Stands registry path node ∧ hasModule registry node = true ∧
        ModuleId.ofId node.id = id := by
  have hids := List.mem_map (f := Module.id) (l := Plan.preorder plan.modules) (b := id)
  rw [← hids, map_id_preorder h, List.mem_map]
  simp only [Prod.exists, mem_sites, and_assoc]

theorem mem_sites_iff_of_module (hvalid : graph.isValid registry = true)
    (hcompile : graph.compile registry name = .ok plan) {id : String}
    (hid : id ∈ graph.nodes.map Node.id)
    (h : ∃ m ∈ Plan.preorder plan.modules, m.id = ModuleId.ofId id) (spot : Spot) :
    spot ∈ graph.sites registry ∧ ModuleId.ofId spot.2.id = ModuleId.ofId id ↔
      graph.Stands registry spot.1 spot.2 ∧ spot.2.id = id := by
  obtain ⟨path, node⟩ := spot
  obtain ⟨other, hother, rfl⟩ := List.mem_map.mp hid
  have heq : ∀ {path node}, graph.Stands registry path node →
      ModuleId.ofId node.id = ModuleId.ofId other.id →
      node = other := by
    intro path node hstands
    exact id_eq_of_ofId_eq hvalid ((mem_mainOrder hvalid).mp hstands.mem).1 hother
  obtain ⟨_, _, hstands, hmodule, hofId⟩ := (mem_preorder hcompile).mp h
  have hkind : hasModule registry other = true := heq hstands hofId ▸ hmodule
  rw [mem_sites]
  constructor
  · rintro ⟨⟨hstands, _⟩, hofId⟩
    exact ⟨hstands, heq hstands hofId ▸ rfl⟩
  · rintro ⟨hstands, hid⟩
    obtain rfl : node = other := heq hstands (congrArg ModuleId.ofId hid)
    exact ⟨⟨hstands, hkind⟩, rfl⟩

theorem pairwise_sites (graph : Graph) (registry : Registry) :
    (graph.sites registry).Pairwise (Earlier (graph.compileContext registry)) :=
  (pairwise_layout (List.Sublist.refl _)).filter _

end Graph

end Flowplan
