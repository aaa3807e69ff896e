import Flowplan.Graph.Defect

namespace Flowplan

namespace Reference

def Names (text name : String) : Prop :=
  ∃ rest, text.toList = mark ++ name.toList ++ rest ∧ '.' ∉ name.toList ∧
    (rest = [] ∨ ['.'] <+: rest)

variable {text name : String}

theorem isReference_iff : isReference (.str text) = true ↔ mark <+: text.toList :=
  List.isPrefixOf_iff_prefix

theorem isFlowInput_iff : isFlowInput (.str text) = true ↔ mark ++ flowInput <+: text.toList :=
  List.isPrefixOf_iff_prefix

theorem target_eq_iff (h : mark <+: text.toList) : target text = name ↔ Names text name := by
  obtain ⟨path, hpath⟩ := h
  have htarget : target text = name ↔ (Text.cut '.' path).1 = name.toList := by
    rw [target, Reference.path, ← hpath, List.drop_left, ← String.toList_inj, String.toList_ofList]
  rw [htarget, Text.cut_fst_eq_iff, Names, ← hpath]
  simp only [List.append_assoc, List.append_cancel_left_eq]
  grind

theorem Names.mark_prefix (h : Names text name) : mark <+: text.toList := by
  obtain ⟨rest, htext, _⟩ := h
  exact ⟨name.toList ++ rest, by simp [htext]⟩

theorem Names.target_eq (h : Names text name) : target text = name :=
  (target_eq_iff h.mark_prefix).mpr h

end Reference

namespace Graph

open Reference

variable {graph : Graph} {node : Node}

theorem brokenReferences_eq_nil_iff : graph.brokenReferences node = [] ↔
    ∀ input text name, (input, Json.str text) ∈ node.inputs → Names text name →
      ¬ mark ++ flowInput <+: text.toList → name ∈ graph.ids := by
  simp only [brokenReferences, List.filterMap_eq_nil_iff]
  constructor
  · intro h input text name hinput hnames hflow
    have hnone := h (input, .str text) hinput
    simp only [isReference_iff.mpr hnames.mark_prefix,
      Bool.eq_false_iff.mpr (mt isFlowInput_iff.mp hflow), hnames.target_eq] at hnone
    simpa using hnone
  · rintro h ⟨input, value⟩ hinput
    cases value with
    | str text =>
      by_cases hbroken : mark <+: text.toList ∧ ¬ mark ++ flowInput <+: text.toList
      · have hmem := h input text (target text) hinput ((target_eq_iff hbroken.1).mp rfl) hbroken.2
        simp [hmem]
      · simp only [← isReference_iff, ← isFlowInput_iff] at hbroken
        simp_all
    | _ => rfl

end Graph

end Flowplan
