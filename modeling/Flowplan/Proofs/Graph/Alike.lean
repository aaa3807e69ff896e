import Flowplan.Graph.Order
import Flowplan.Proofs.Json.Canonical
import Flowplan.Signature.Basic

namespace Flowplan

namespace Json

variable {value other : Json}

theorem Alike.field?_rel (h : value.Alike other) (hproper : value.isProper = true) (name : String) :
    Option.Rel Alike (value.field? name) (other.field? name) := by
  cases value with
  | obj fields =>
    cases other with
    | obj others => exact (alike_obj_iff.mp h).lookup (isProper_obj_iff.mp hproper).1 name
    | _ => cases h
  | _ =>
    cases h
    exact .none

theorem Alike.eq_of_str {s t : String} (h : (Json.str s).Alike (.str t)) : s = t := by
  cases h
  rfl

theorem Alike.eq_of_int {m n : Int} (h : (Json.int m).Alike (.int n)) : m = n := by
  cases h
  rfl

theorem eq_of_rel_map {α : Type} {f : α → Json} (hf : ∀ {a b}, (f a).Alike (f b) → a = b)
    {x y : Option α} (h : Option.Rel Alike (x.map f) (y.map f)) : x = y := by
  cases x <;> cases y
  case none.none => rfl
  case some.some => exact congrArg some (hf (Option.rel_some_some.mp h))
  all_goals cases h

theorem forall₂_of_alike_map {α : Type} {f : α → Json} {p : α → Prop} {xs ys : List α}
    (hxs : ∀ x ∈ xs, p x) (h : Json.Alike (.arr (xs.map f)) (.arr (ys.map f))) :
    List.Forall₂ (fun x y => p x ∧ (f x).Alike (f y)) xs ys := by
  obtain _ | _ | _ | _ | _ | hitems | _ := h
  exact (List.forall₂_and_left _ _).mpr
    ⟨hxs, List.forall₂_map_right_iff.mp (List.forall₂_map_left_iff.mp hitems)⟩

end Json

namespace Node

/-- Steps that differ at most in the order of names in their configuration and
in their inputs, where no name comes twice. -/
structure Alike (node other : Node) : Prop where
  id : node.id = other.id
  kind : node.kind = other.kind
  config : Entries.Agree Json.Alike (fun _ => False) node.config other.config
  inputs : Entries.Agree Json.Alike (fun _ => False) node.inputs other.inputs
  retries : node.retries = other.retries

variable {node other : Node}

theorem field?_retries (node : Node) :
    node.write.field? "retries" = node.retries.map fun n => .int n := by
  cases hretries : node.retries <;> simp [write, Json.field?, hretries, List.lookup_cons]

theorem nodup_names (hproper : node.write.isProper = true) :
    (Entries.names node.config).Nodup ∧ (Entries.names node.inputs).Nodup := by
  have hfields := (Json.isProper_obj_iff.mp hproper).2
  have hconfig := hfields ("config", .obj node.config) (by simp)
  have hinputs := hfields ("inputMapping", .obj node.inputs) (by simp)
  exact ⟨(Json.isProper_obj_iff.mp hconfig).1, (Json.isProper_obj_iff.mp hinputs).1⟩

theorem alike_of_write (h : node.write.Alike other.write) (hproper : node.write.isProper = true) :
    node.Alike other := by
  have hfield := h.field?_rel hproper
  obtain ⟨hnodup, hnodup'⟩ := nodup_names hproper
  have hid : Json.Alike (.str node.id) (.str other.id) := Option.rel_some_some.mp (hfield "id")
  have hkind : Json.Alike (.str node.kind) (.str other.kind) :=
    Option.rel_some_some.mp (hfield "type")
  have hconfig : Json.Alike (.obj node.config) (.obj other.config) :=
    Option.rel_some_some.mp (hfield "config")
  have hinputs : Json.Alike (.obj node.inputs) (.obj other.inputs) :=
    Option.rel_some_some.mp (hfield "inputMapping")
  have hretries := hfield "retries"
  rw [field?_retries, field?_retries] at hretries
  exact ⟨hid.eq_of_str, hkind.eq_of_str, (Json.alike_obj_iff.mp hconfig).agree hnodup,
    (Json.alike_obj_iff.mp hinputs).agree hnodup',
    Json.eq_of_rel_map (fun h => Int.ofNat.inj h.eq_of_int) hretries⟩

end Node

namespace Edge

variable {edge other : Edge}

theorem field?_condition (edge : Edge) : edge.write.field? "condition" =
    edge.condition.map .str := by
  cases hcondition : edge.condition <;> simp [write, Json.field?, hcondition, List.lookup_cons]

theorem eq_of_write (h : edge.write.Alike other.write) (hproper : edge.write.isProper = true) :
    edge = other := by
  have hfield := h.field?_rel hproper
  have hsource : Json.Alike (.str edge.source) (.str other.source) :=
    Option.rel_some_some.mp (hfield "from")
  have htarget : Json.Alike (.str edge.target) (.str other.target) :=
    Option.rel_some_some.mp (hfield "to")
  have hcondition := hfield "condition"
  rw [field?_condition, field?_condition] at hcondition
  have hsame := Json.eq_of_rel_map Json.Alike.eq_of_str hcondition
  obtain ⟨source, target, condition⟩ := edge
  exact congr (congrArg₂ Edge.mk hsource.eq_of_str htarget.eq_of_str) hsame

end Edge

namespace Graph

structure Alike (graph other : Graph) : Prop where
  nodes : List.Forall₂ Node.Alike graph.nodes other.nodes
  edges : graph.edges = other.edges
  onError : graph.onError = other.onError

variable {graph other : Graph}

theorem field?_onError (graph : Graph) : graph.write.field? "onError" = graph.onError.map .str := by
  cases honError : graph.onError <;> simp [write, Json.field?, honError, List.lookup_cons]

theorem isProper_items (hproper : graph.write.isProper = true) :
    (∀ node ∈ graph.nodes, node.write.isProper = true) ∧ ∀ edge ∈ graph.edges,
    edge.write.isProper = true := by
  have hfields := (Json.isProper_obj_iff.mp hproper).2
  have hnodes := hfields ("nodes", .arr (graph.nodes.map Node.write)) (by simp)
  have hedges := hfields ("edges", .arr (graph.edges.map Edge.write)) (by simp)
  rw [Json.isProper_arr_iff, List.forall_mem_map] at hnodes hedges
  exact ⟨hnodes, hedges⟩

theorem alike_of_write (h : graph.write.Alike other.write) (hproper : graph.write.isProper = true) :
    graph.Alike other := by
  have hfield := h.field?_rel hproper
  obtain ⟨hnodes, hedges⟩ := isProper_items hproper
  have hnodes' : Json.Alike (.arr (graph.nodes.map Node.write))
      (.arr (other.nodes.map Node.write)) := Option.rel_some_some.mp (hfield "nodes")
  have hedges' : Json.Alike (.arr (graph.edges.map Edge.write))
      (.arr (other.edges.map Edge.write)) := Option.rel_some_some.mp (hfield "edges")
  have honError := hfield "onError"
  rw [field?_onError, field?_onError] at honError
  refine ⟨?_, ?_, Json.eq_of_rel_map Json.Alike.eq_of_str honError⟩
  · exact (Json.forall₂_of_alike_map hnodes hnodes').imp fun _ _ h => Node.alike_of_write h.2 h.1
  · rw [← List.forall₂_eq_eq_eq]
    exact (Json.forall₂_of_alike_map hedges hedges').imp fun _ _ h => Edge.eq_of_write h.2 h.1

theorem alike_of_canonicalText_eq (hproper : graph.write.isProper = true)
    (hproper' : other.write.isProper = true)
    (h : graph.write.canonicalText = other.write.canonicalText) : graph.Alike other :=
  alike_of_write (Json.alike_of_canonicalText_eq hproper hproper' h) hproper

structure Twins (graph : Graph) (node other : Node) : Prop where
  mem : node ∈ graph.nodes
  alike : node.Alike other

variable {nodes others : List Node}

theorem map_id_eq_of_twins (h : List.Forall₂ graph.Twins nodes others) :
    nodes.map Node.id = others.map Node.id :=
  Json.map_eq_map_iff_forall₂.mpr (h.imp fun _ _ h => h.alike.id)

theorem filter_twins (h : List.Forall₂ graph.Twins nodes others) (p : String → Bool) :
    List.Forall₂ graph.Twins (nodes.filter fun node => p node.id)
      (others.filter fun node => p node.id) :=
  List.rel_filter (fun _ _ h => iff_of_eq (congrArg (fun id => p id = true) h.alike.id)) h

theorem find?_twins (h : List.Forall₂ graph.Twins nodes others) (id : String) :
    Option.Rel graph.Twins (nodes.find? (·.id == id)) (others.find? (·.id == id)) := by
  induction h with
  | nil => exact .none
  | @cons node other nodes others hnode _ ih =>
    rw [List.find?_cons, List.find?_cons, hnode.alike.id]
    split
    · exact .some hnode
    · exact ih

theorem Alike.twins (h : graph.Alike other) : List.Forall₂ graph.Twins graph.nodes other.nodes :=
  ((List.forall₂_and_left _ _).mpr ⟨fun _ hmem => hmem, h.nodes⟩).imp fun _ _ h => ⟨h.1, h.2⟩

theorem Alike.ids_eq (h : graph.Alike other) : graph.ids = other.ids :=
  map_id_eq_of_twins h.twins

theorem Alike.topologicalOrder_twins (h : graph.Alike other) :
    List.Forall₂ graph.Twins (topologicalOrder graph.nodes graph.edges)
      (topologicalOrder other.nodes other.edges) := by
  have hids : Order.orderedIds graph.nodes graph.edges =
      Order.orderedIds other.nodes other.edges := by
    rw [Order.orderedIds, Order.orderedIds, map_id_eq_of_twins h.twins, h.nodes.length_eq, h.edges]
  rw [topologicalOrder, topologicalOrder, hids]
  refine List.rel_filterMap ?_ (List.forall₂_same.mpr fun _ _ => rfl)
  rintro id _ rfl
  exact find?_twins (List.rel_reverse h.twins) id

end Graph

end Flowplan
