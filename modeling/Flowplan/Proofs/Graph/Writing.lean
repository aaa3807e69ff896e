import Flowplan.Proofs.Graph.Document
import Flowplan.Signature.Basic

namespace Flowplan

open Intake

namespace Json

def get? : List Step → Json → Option Json
  | [], value => some value
  | .name name :: path, .obj fields => (fields.lookup name).bind (get? path)
  | .index position :: path, .arr items => items[position]?.bind (get? path)
  | _ :: _, _ => none

theorem get?_name_cons {object value : Json} {name : String} (h : object.field? name = some value)
    (path : List Step) : object.get? (.name name :: path) = value.get? path := by
  cases object with
  | obj fields => exact (congrArg (Option.bind · (get? path)) h)
  | _ => cases h

end Json

theorem exists_getElem?_right {α β : Type} {R : α → β → Prop} {as : List α} {bs : List β}
    (h : List.Forall₂ R as bs) {i : Nat} {a : α} (ha : as[i]? = some a) :
    ∃ b, bs[i]? = some b ∧ R a b := by
  induction h generalizing i with
  | nil => cases ha
  | @cons a' b _ _ hab _ ih =>
    cases i with
    | zero =>
      obtain rfl := Option.some.inj ha
      exact ⟨b, rfl, hab⟩
    | succ i => exact ih ha

namespace Intake

variable {α : Type} {read : Json → Reading α} {fields : Entries Json} {name found : String}
  {second : Option String} {value : Json} {a : α} {as : List α}

theorem object_eq_good_iff : object value = .good fields ↔ value = .obj fields := by
  cases value <;> simp [object, refuse]

theorem object_obj (fields : Entries Json) : object (.obj fields) = .good fields := rfl

theorem someText_str {text : String} (h : text ≠ "") : someText (.str text) = .good text := by
  rw [someText, if_neg (by simpa using h)]

theorem optional_text (text : String) : optional Intake.text (.str text) = .good (some text) := rfl

theorem optional_count (n : Nat) : optional count (.int n) = .good (some n) := by
  rw [Intake.optional, count, integer, Reading.andThen, if_neg (by omega), Int.toNat_natCast,
    Reading.map_good]
  nofun

theorem defaulted_eq_good_iff {fallback : α}
    (hfield : field? fields name second = some (found, value)) :
    defaulted fields name fallback read second = .good a ↔ read value = .good a := by
  rw [defaulted, hfield]
  exact Reading.under_eq_good_iff

theorem list_map {write : α → Json} (h : ∀ a ∈ as, read (write a) = .good a) :
    list read (.arr (as.map write)) = .good as :=
  list_eq_good_iff.mpr ⟨_, rfl, List.forall₂_map_left_iff.mpr (List.forall₂_same.mpr h)⟩

theorem field?_eq_some (h : fields.lookup name = some value) :
    field? fields name second = some (name, value) := by
  rw [field?, h]

end Intake

namespace Node

/-- The names under which the configuration and the inputs of a step are found, each
beside the one under which they are written. -/
inductive Spelled (fields : Entries Json) : String → String → Prop
  | config : Spelled fields "config" "config"
  | inputs : Spelled fields "inputMapping" "inputMapping"
  | secondName : fields.lookup "inputMapping" = none → Spelled fields "input_mapping" "inputMapping"

variable {fields : Entries Json} {node : Node} {found written : String} {value : Json}

theorem read_obj_eq_good (h : Node.read (.obj fields) = .good node) :
    defaulted fields "config" [] object = .good node.config ∧
      defaulted fields "inputMapping" [] object (some "input_mapping") = .good node.inputs := by
  simp only [Node.read, record, Reading.seq_eq_good_iff, Reading.map_eq_good_iff] at h
  obtain ⟨_, retries, ⟨_, inputs, ⟨_, config, ⟨_, kind, ⟨id, _, rfl⟩, _, rfl⟩, hconfig, rfl⟩,
    hinputs, rfl⟩, _, rfl⟩ := h
  exact ⟨hconfig, hinputs⟩

theorem field?_write_of_spelled (h : Node.read (.obj fields) = .good node)
    (hspelled : Spelled fields found written) (hvalue : fields.lookup found = some value) :
    node.write.field? written = some value := by
  obtain ⟨hconfig, hinputs⟩ := read_obj_eq_good h
  cases hspelled with
  | config =>
    rw [object_eq_good_iff.mp ((defaulted_eq_good_iff (field?_eq_some hvalue)).mp hconfig)]
    rfl
  | inputs =>
    rw [object_eq_good_iff.mp ((defaulted_eq_good_iff (field?_eq_some hvalue)).mp hinputs)]
    rfl
  | secondName hnone =>
    have hfield : field? fields "inputMapping" (some "input_mapping") =
        some ("input_mapping", value) := by
      rw [field?, hnone, Option.bind_some, hvalue, Option.map_some]
    rw [object_eq_good_iff.mp ((defaulted_eq_good_iff hfield).mp hinputs)]
    rfl

theorem read_write (hid : node.id ≠ "") (hkind : node.kind ≠ "") :
    Node.read node.write = .good node := by
  obtain ⟨id, kind, config, inputs, retries⟩ := node
  replace hid := someText_str hid
  replace hkind := someText_str hkind
  cases retries with
  | none =>
    simp [Node.read, write, record, required, defaulted, field?, List.lookup_cons,
      object_obj, hid, hkind]
  | some n =>
    simp [Node.read, write, record, required, defaulted, field?, List.lookup_cons,
      object_obj, hid, hkind, optional_count]

end Node

namespace Edge

variable {edge : Edge}

theorem read_write (hsource : edge.source ≠ "") (htarget : edge.target ≠ "") :
    Edge.read edge.write = .good edge := by
  obtain ⟨source, target, condition⟩ := edge
  replace hsource := someText_str hsource
  replace htarget := someText_str htarget
  cases condition with
  | none =>
    simp [Edge.read, write, record, required, defaulted, field?, List.lookup_cons, hsource, htarget]
  | some condition =>
    simp [Edge.read, write, record, required, defaulted, field?, List.lookup_cons, hsource, htarget,
      optional_text]

end Edge

namespace Graph

variable {document : Json} {graph : Graph}

theorem read_write (hnodes : graph.nodes ≠ [])
    (hsteps : ∀ node ∈ graph.nodes, Node.read node.write = .good node)
    (hedges : ∀ edge ∈ graph.edges, Edge.read edge.write = .good edge) :
    Graph.read graph.write = .good graph := by
  obtain ⟨nodes, edges, onError⟩ := graph
  replace hsteps : someList Node.read (.arr (nodes.map Node.write)) = .good nodes :=
    someList_eq_good_iff.mpr ⟨hnodes, list_map hsteps⟩
  replace hedges : list Edge.read (.arr (edges.map Edge.write)) = .good edges := list_map hedges
  cases onError with
  | none =>
    simp [Graph.read, write, record, required, defaulted, field?, List.lookup_cons, hsteps, hedges]
  | some onError =>
    simp [Graph.read, write, record, required, defaulted, field?, List.lookup_cons, hsteps, hedges,
      optional_text]

theorem get?_write_nodes (graph : Graph) (i : Nat) (path : List Step) :
    graph.write.get? (.name "nodes" :: .index i :: path) =
      (graph.nodes[i]?.map Node.write).bind (Json.get? path) := by
  simp [write, Json.get?]

/-- A graph is what its documents say, and what is written of it is one of them. -/
structure Restored (document : Json) (graph : Graph) : Prop where
  reads : Graph.read graph.write = .good graph
  again : ∀ other, Graph.read graph.write = .good other →
    other.write = graph.write ∧ other.signature = graph.signature
  signature : graph.signature = graph.write.signature
  config : ∀ (i : Nat) node, graph.nodes[i]? = some node →
    graph.write.get? [.name "nodes", .index i, .name "config"] = some (.obj node.config)
  inputs : ∀ (i : Nat) node, graph.nodes[i]? = some node →
    graph.write.get? [.name "nodes", .index i, .name "inputMapping"] = some (.obj node.inputs)
  kept : ∀ i fields found written value,
    document.get? [.name "nodes", .index i] = some (.obj fields) →
    Node.Spelled fields found written → fields.lookup found = some value →
    ∀ path, graph.write.get? (.name "nodes" :: .index i :: .name written :: path) = value.get? path

theorem restored_of_read (h : Graph.read document = .good graph) : graph.Restored document := by
  have hends : ∀ edge ∈ graph.edges, edge.source ≠ "" ∧ edge.target ≠ "" :=
    fun _ => ends_ne_empty_of_read h
  obtain ⟨fields, values, rfl, hlookup, hvalues, hnodes⟩ := exists_steps_of_read h
  have hreads : Graph.read graph.write = .good graph := by
    refine read_write hnodes (fun node hnode => ?_) fun edge hedge => ?_
    · obtain ⟨value, _, hread⟩ := exists_left_of_mem hvalues hnode
      obtain ⟨hid, hkind⟩ := Node.ne_empty_of_read hread
      exact Node.read_write hid hkind
    · exact Edge.read_write (hends edge hedge).1 (hends edge hedge).2
  refine ⟨hreads, fun other hother => ?_, rfl, fun i node hnode => ?_, fun i node hnode => ?_, ?_⟩
  · obtain rfl := Reading.good.inj (hreads.symm.trans hother)
    exact ⟨rfl, rfl⟩
  · rw [get?_write_nodes, hnode]
    rfl
  · rw [get?_write_nodes, hnode]
    rfl
  · intro i stepFields found written value hstep hspelled hvalue path
    have hitem : values[i]? = some (.obj stepFields) := by
      simpa [Json.get?, hlookup] using hstep
    obtain ⟨node, hnode, hread⟩ := exists_getElem?_right hvalues hitem
    have hwritten := Node.field?_write_of_spelled hread hspelled hvalue
    rw [get?_write_nodes, hnode, Option.map_some, Option.bind_some]
    exact Json.get?_name_cons hwritten path

def spelledDocument : Json :=
  .obj [("nodes", .arr [.obj [("type", .str "http.call"), ("id", .str "send"),
      ("input_mapping",
        .obj [("to", .arr [.null, .obj [("name", .null)]]), ("city", .str "$ref:flow_input.city")]),
      ("retries", .str " 03 ")]]),
    ("on_error", .str "send"), ("edges", .arr [])]

def spelledGraph : Graph where
  nodes := [⟨"send", "http.call", [],
    [("to", .arr [.null, .obj [("name", .null)]]), ("city", .str "$ref:flow_input.city")], some 3⟩]
  edges := []
  onError := some "send"

theorem restored_of_spelled :
    Graph.read spelledDocument = .good spelledGraph ∧ spelledGraph.Restored spelledDocument ∧
    spelledGraph.write.get?
      [.name "nodes", .index 0, .name "inputMapping", .name "to", .index 1, .name "name"] =
        some .null := by
  have hread : Graph.read spelledDocument = .good spelledGraph := rfl
  have hrestored := restored_of_read hread
  have hkept := hrestored.kept 0 _ "input_mapping" "inputMapping" _ rfl (.secondName rfl) rfl
  exact ⟨hread, hrestored, hkept [.name "to", .index 1, .name "name"]⟩

end Graph

end Flowplan
