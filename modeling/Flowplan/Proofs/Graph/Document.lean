import Flowplan.Graph.Document
import Flowplan.Proofs.Fallible

namespace Flowplan

namespace Intake

variable {α : Type} {read : Json → Reading α} {fields : Entries Json} {name : String}
  {second : Option String} {value : Json} {a : α} {as : List α}

theorem items_eq_good_iff {position : Nat} {values : List Json} :
    items read position values = .good as ↔
      List.Forall₂ (fun value a => read value = .good a) values as := by
  induction values generalizing position as with
  | nil => cases as <;> simp [items]
  | cons value rest ih =>
    simp only [items, Reading.both_eq_good_iff, Reading.under_eq_good_iff, ih,
      List.forall₂_cons_left_iff]
    grind

theorem list_eq_good_iff : list read value = .good as ↔
    ∃ values, value = .arr values ∧
      List.Forall₂ (fun value a => read value = .good a) values as := by
  rw [list.eq_def]
  split
  · simp [items_eq_good_iff]
  · simp_all [refuse]

theorem someList_eq_good_iff :
    someList read value = .good as ↔ as ≠ [] ∧ list read value = .good as := by
  rw [someList.eq_def]
  split
  · simp only [list_eq_good_iff, refuse, reduceCtorEq, false_iff]
    rintro ⟨hne, values, heq, hvalues⟩
    obtain rfl := Json.arr.inj heq
    exact hne (List.forall₂_nil_left_iff.mp hvalues)
  · next hne =>
    rw [list_eq_good_iff]
    refine ⟨fun h => ⟨?_, h⟩, And.right⟩
    rintro rfl
    obtain ⟨values, rfl, hvalues⟩ := h
    exact hne (List.forall₂_nil_right_iff.mp hvalues ▸ rfl)

theorem required_eq_good_iff : required fields name read second = .good a ↔
    ∃ found value, field? fields name second = some (found, value) ∧ read value = .good a := by
  rw [required]
  split
  · next found value hfield => simp [hfield, Reading.under_eq_good_iff]
  · next hfield => simp [hfield]

theorem eq_or_exists_of_defaulted {fallback : α}
    (h : defaulted fields name fallback read second = .good a) :
    a = fallback ∨ ∃ value, read value = .good a := by
  rw [defaulted] at h
  split at h
  · next value _ => exact .inr ⟨value, Reading.under_eq_good_iff.mp h⟩
  · exact .inl (Reading.good.inj h).symm

theorem field?_none (fields : Entries Json) (name : String) :
    field? fields name none = (fields.lookup name).map (name, ·) := by
  rw [field?]
  cases fields.lookup name <;> rfl

theorem ne_empty_of_someText {value : Json} {text : String} (h : someText value = .good text) :
    text ≠ "" := by
  rw [someText.eq_def] at h
  split at h
  · split at h
    · cases h
    · next hempty =>
      obtain rfl := Reading.good.inj h
      simpa using hempty
  · cases h

end Intake

open Intake

theorem Node.ne_empty_of_read {document : Json} {node : Node}
    (h : Node.read document = .good node) : node.id ≠ "" ∧ node.kind ≠ "" := by
  rw [Node.read, record.eq_def] at h
  split at h
  · simp only [Reading.seq_eq_good_iff, Reading.map_eq_good_iff] at h
    obtain ⟨_, retries, ⟨_, inputs, ⟨_, config, ⟨_, kind, ⟨id, hid, rfl⟩, hkind, rfl⟩, _, rfl⟩,
      _, rfl⟩, _, rfl⟩ := h
    obtain ⟨_, _, _, hid⟩ := required_eq_good_iff.mp hid
    obtain ⟨_, _, _, hkind⟩ := required_eq_good_iff.mp hkind
    exact ⟨ne_empty_of_someText hid, ne_empty_of_someText hkind⟩
  · cases h

theorem Edge.ne_empty_of_read {document : Json} {edge : Edge}
    (h : Edge.read document = .good edge) : edge.source ≠ "" ∧ edge.target ≠ "" := by
  rw [Edge.read, record.eq_def] at h
  split at h
  · simp only [Reading.seq_eq_good_iff, Reading.map_eq_good_iff] at h
    obtain ⟨_, condition, ⟨_, target, ⟨source, hsource, rfl⟩, htarget, rfl⟩, _, rfl⟩ := h
    obtain ⟨_, _, _, hsource⟩ := required_eq_good_iff.mp hsource
    obtain ⟨_, _, _, htarget⟩ := required_eq_good_iff.mp htarget
    exact ⟨ne_empty_of_someText hsource, ne_empty_of_someText htarget⟩
  · cases h

namespace Graph

variable {document : Json} {graph : Graph} {node : Node} {edge : Edge}

theorem exists_steps_of_read (h : Graph.read document = .good graph) :
    ∃ fields values, document = .obj fields ∧
    fields.lookup "nodes" = some (.arr values) ∧
    List.Forall₂ (fun value node => Node.read value = .good node) values graph.nodes ∧
    graph.nodes ≠ [] := by
  rw [Graph.read, record.eq_def] at h
  split at h
  · next fields =>
    simp only [Reading.seq_eq_good_iff, Reading.map_eq_good_iff] at h
    obtain ⟨_, onError, ⟨_, edges, ⟨nodes, hnodes, rfl⟩, _, rfl⟩, _, rfl⟩ := h
    obtain ⟨found, value, hfield, hnodes⟩ := required_eq_good_iff.mp hnodes
    obtain ⟨hne, hlist⟩ := someList_eq_good_iff.mp hnodes
    obtain ⟨values, rfl, hvalues⟩ := list_eq_good_iff.mp hlist
    rw [field?_none, Option.map_eq_some_iff] at hfield
    obtain ⟨_, hlookup, heq⟩ := hfield
    cases heq
    exact ⟨fields, values, rfl, hlookup, hvalues, hne⟩
  · cases h

theorem id_ne_empty_of_read (h : Graph.read document = .good graph) (hnode : node ∈ graph.nodes) :
    node.id ≠ "" := by
  obtain ⟨_, _, _, _, hvalues, _⟩ := exists_steps_of_read h
  obtain ⟨_, _, hread⟩ := exists_left_of_mem hvalues hnode
  exact (Node.ne_empty_of_read hread).1

theorem ends_ne_empty_of_read (h : Graph.read document = .good graph) (hedge : edge ∈ graph.edges) :
    edge.source ≠ "" ∧ edge.target ≠ "" := by
  rw [Graph.read, record.eq_def] at h
  split at h
  · simp only [Reading.seq_eq_good_iff, Reading.map_eq_good_iff] at h
    obtain ⟨_, onError, ⟨_, edges, ⟨nodes, _, rfl⟩, hedges, rfl⟩, _, rfl⟩ := h
    rcases eq_or_exists_of_defaulted hedges with rfl | ⟨value, hvalue⟩
    · cases hedge
    · obtain ⟨values, rfl, hvalues⟩ := list_eq_good_iff.mp hvalue
      obtain ⟨_, _, hread⟩ := exists_left_of_mem hvalues hedge
      exact Edge.ne_empty_of_read hread
  · cases h

end Graph

end Flowplan
