import Flowplan.Plan.Params
import Flowplan.Proofs.Fallible
import Flowplan.Proofs.Graph.Alike

namespace Flowplan

namespace Reference

theorem inputField?_eq_of_alike {value other : Json} (h : value.Alike other) :
    inputField? value = inputField? other := by
  cases h <;> rfl

end Reference

namespace InputSchema

variable {graph other : Graph} {declared : Entries Json} {fields : List String}
  {field name : String}

def textInput : Json := .obj [("type", .str "string")]

theorem nodup_names_declare (h : (Entries.names declared).Nodup) :
    (declare declared field).names.Nodup := by
  rw [declare]
  split
  · exact h
  · exact Entries.nodup_names_put h

theorem lookup_declare (declared : Entries Json) (field name : String) :
    (declare declared field).lookup name =
      (declared.lookup name).or (if name = field ∧ name ≠ "" then some textInput else none) := by
  rw [declare, Entries.has_eq]
  by_cases hname : name = field
  · subst hname
    by_cases hempty : name = ""
    · simp [hempty]
    · by_cases hmem : name ∈ Entries.names declared
      · obtain ⟨value, hvalue⟩ := Option.isSome_iff_exists.mp (Entries.mem_names_iff.mp hmem)
        simp [hempty, hmem, hvalue]
      · simp [hempty, hmem, Entries.lookup_eq_none_iff.mpr hmem, textInput]
  · split
    · simp [hname]
    · simp [hname, Entries.lookup_put_of_ne]

theorem nodup_names_foldl (h : (Entries.names declared).Nodup) :
    (fields.foldl declare declared).names.Nodup := by
  induction fields generalizing declared with
  | nil => exact h
  | cons field fields ih => exact ih (nodup_names_declare h)

theorem lookup_foldl (declared : Entries Json) (fields : List String) (name : String) :
    (fields.foldl declare declared).lookup name =
      (declared.lookup name).or (if name ∈ fields ∧ name ≠ "" then some textInput else none) := by
  induction fields generalizing declared with
  | nil => simp
  | cons field fields ih =>
    rw [List.foldl_cons, ih, lookup_declare, Option.or_assoc]
    by_cases hfield : name = field
    · subst hfield
      by_cases hempty : name = "" <;> simp [hempty]
    · simp [hfield]

theorem mem_referenced_iff : name ∈ referenced graph ↔
    ∃ node ∈ graph.nodes, ∃ entry ∈ node.inputs, Reference.inputField? entry.2 = some name := by
  simp [referenced]

theorem exists_input_iff_of_alike {node node' : Node} (h : node.Alike node') :
    (∃ entry ∈ node.inputs, Reference.inputField? entry.2 = some name) ↔
      ∃ entry ∈ node'.inputs, Reference.inputField? entry.2 = some name := by
  constructor
  · rintro ⟨⟨input, value⟩, hmem, hfield⟩
    obtain ⟨value', hmem', halike⟩ := h.inputs.exists_right_of_mem id hmem
    exact ⟨_, hmem', Reference.inputField?_eq_of_alike halike ▸ hfield⟩
  · rintro ⟨⟨input, value⟩, hmem, hfield⟩
    obtain ⟨value', hmem', halike⟩ := h.inputs.flip.exists_right_of_mem id hmem
    exact ⟨_, hmem', Reference.inputField?_eq_of_alike halike ▸ hfield⟩

theorem mem_referenced_iff_of_alike (h : graph.Alike other) :
    name ∈ referenced graph ↔ name ∈ referenced other := by
  rw [mem_referenced_iff, mem_referenced_iff]
  constructor
  · rintro ⟨node, hnode, hinput⟩
    obtain ⟨node', hnode', halike⟩ := exists_right_of_mem h.nodes hnode
    exact ⟨node', hnode', (exists_input_iff_of_alike halike).mp hinput⟩
  · rintro ⟨node', hnode', hinput⟩
    obtain ⟨node, hnode, halike⟩ := exists_left_of_mem h.nodes hnode'
    exact ⟨node, hnode, (exists_input_iff_of_alike halike).mpr hinput⟩

theorem infer_perm_of_alike (h : graph.Alike other) : (infer graph).Perm (infer other) := by
  have hbase : base.names.Nodup := by decide
  refine Entries.perm_of_lookup_eq (nodup_names_foldl hbase) (nodup_names_foldl hbase)
    fun name => ?_
  rw [infer, infer, lookup_foldl, lookup_foldl]
  simp only [mem_referenced_iff_of_alike h]

end InputSchema

end Flowplan
