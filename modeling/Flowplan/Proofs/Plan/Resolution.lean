import Flowplan.Plan.Expression
import Flowplan.Proofs.Graph.Reference
import Flowplan.Proofs.Graph.Valid

/-!
# Resolved references

A reference compiles to the expression of the run inputs or of the output of a step.
The check of a graph lets a reference pass whose name only starts like the run inputs,
and then the step that is read need not exist.
-/

namespace Flowplan

namespace ModuleId

theorem dot_notMem_ofChars (id : List Char) : '.' ∉ ofChars id := by
  intro hdot
  obtain ⟨c, _, hc⟩ := List.mem_map.mp hdot
  by_cases h : isIdChar c
  · simp only [idChar, h, if_true] at hc
    subst hc
    revert h
    decide
  · simp [idChar, h] at hc

end ModuleId

namespace Expression

open Reference

theorem accesses_eq_nil_or (segments : List (List Char)) :
    accesses segments = [] ∨ ['.'] <+: accesses segments := by
  cases segments <;> simp [accesses]

variable {path : List Char}

theorem cut_eq_flowInput_iff : (Text.cut '.' path).1 = flowInput ↔
    (path == flowInput || (flowInput ++ ['.']).isPrefixOf path) = true := by
  have hdot : '.' ∉ flowInput := by decide
  rw [Text.cut_fst_eq_iff, Bool.or_eq_true, beq_iff_eq, List.isPrefixOf_iff_prefix,
    and_iff_right hdot]
  constructor
  · rintro ⟨rest, rfl, rfl | ⟨more, rfl⟩⟩
    · exact .inl (List.append_nil _)
    · exact .inr ⟨more, by simp⟩
  · rintro (rfl | ⟨more, rfl⟩)
    · exact ⟨[], (List.append_nil _).symm, .inl rfl⟩
    · exact ⟨'.' :: more, by simp, .inr ⟨more, rfl⟩⟩

theorem ofPath_flowInput (h : (Text.cut '.' path).1 = flowInput) : ofPath path = path := by
  rw [ofPath, cut_eq_flowInput_iff.mp h, if_pos rfl]

theorem ofPath_step (h : (Text.cut '.' path).1 ≠ flowInput) :
    ∃ rest, ofPath path = access ++ ModuleId.ofChars (Text.cut '.' path).1 ++ rest ∧
      (rest = [] ∨ ['.'] <+: rest) := by
  obtain ⟨rest, hsegments⟩ := Text.segments_eq_cons '.' path
  refine ⟨accesses (rest.filter (· != "output".toList)), ?_, accesses_eq_nil_or _⟩
  rw [ofPath, if_neg (mt cut_eq_flowInput_iff.mpr h), hsegments]
  simp [access]

end Expression

namespace Graph

open Expression Reference

variable {registry : Registry} {graph : Graph} {node : Node}

def Resolves (graph : Graph) (expr : String) : Prop :=
  expr.toList = flowInput ∨ flowInput ++ ['.'] <+: expr.toList ∨
    ∃ node ∈ graph.nodes, ∃ rest, expr.toList = access ++ (ModuleId.ofId node.id).toList ++ rest ∧
      (rest = [] ∨ ['.'] <+: rest)

theorem resolves_step_iff {expr : String} {step rest : List Char}
    (hrest : rest = [] ∨ ['.'] <+: rest)
    (hexpr : expr.toList = access ++ ModuleId.ofChars step ++ rest) :
    graph.Resolves expr ↔
      ∃ node ∈ graph.nodes, ModuleId.ofChars node.id.toList = ModuleId.ofChars step := by
  have hinput : ¬ flowInput <+: expr.toList := by
    have hflow : flowInput = 'f' :: "low_input".toList := by decide
    have haccess : access = 'r' :: "esults.".toList := by decide
    simp [hexpr, hflow, haccess]
  have hname : expr.toList ≠ flowInput := fun h => hinput (h ▸ List.prefix_rfl)
  have hfield : ¬ flowInput ++ ['.'] <+: expr.toList :=
    fun h => hinput ((List.prefix_append _ _).trans h)
  rw [Resolves, or_iff_right hname, or_iff_right hfield]
  refine exists_congr fun node => and_congr_right fun _ => ?_
  rw [ModuleId.ofId, String.toList_ofList]
  constructor
  · rintro ⟨other, hother, hdot⟩
    rw [hexpr, List.append_assoc, List.append_assoc, List.append_cancel_left_eq] at hother
    rw [← Text.cut_append (ModuleId.dot_notMem_ofChars node.id.toList) hdot, ← hother,
      Text.cut_append (ModuleId.dot_notMem_ofChars step) hrest]
  · intro hstep
    exact ⟨rest, hstep ▸ hexpr, hrest⟩

theorem resolves_ofReference_iff_target {text : String} : graph.Resolves (ofReference text) ↔
    target text = "flow_input" ∨ ∃ node ∈ graph.nodes,
    ModuleId.ofId node.id = ModuleId.ofId (target text) := by
  have htarget : target text = "flow_input" ↔
      (Text.cut '.' (Reference.path text)).1 = flowInput := by
    rw [target, ← String.toList_inj, String.toList_ofList]
    rfl
  by_cases hfirst : (Text.cut '.' (Reference.path text)).1 = flowInput
  · refine iff_of_true ?_ (.inl (htarget.mpr hfirst))
    rw [Resolves, ofReference, String.toList_ofList, ofPath_flowInput hfirst, ← or_assoc]
    exact .inl (by simpa using cut_eq_flowInput_iff.mp hfirst)
  · obtain ⟨rest, hpath, hrest⟩ := ofPath_step hfirst
    rw [resolves_step_iff hrest (by rw [ofReference, String.toList_ofList, hpath]),
      or_iff_right (mt htarget.mp hfirst)]
    simp [ModuleId.ofId, target, String.ofList_inj]

/-- In a valid graph every reference resolves, unless its name starts like the run inputs, is
not them and has the module id of no step. -/
theorem resolves_ofReference_iff (hvalid : graph.isValid registry = true)
    (hnode : node ∈ graph.nodes) {input text : String}
    (hinput : (input, Json.str text) ∈ node.inputs) (hmark : mark <+: text.toList) :
    graph.Resolves (ofReference text) ↔
      (mark ++ flowInput <+: text.toList → target text = "flow_input" ∨
      ∃ other ∈ graph.nodes, ModuleId.ofId other.id = ModuleId.ofId (target text)) := by
  rw [resolves_ofReference_iff_target]
  constructor
  · exact fun h _ => h
  · intro h
    by_cases hflow : mark ++ flowInput <+: text.toList
    · exact h hflow
    · obtain ⟨_, _, _, _, hreferences, _⟩ := isValid_iff_checks.mp hvalid
      have hnames := (target_eq_iff hmark).mp rfl
      have hid :=
        brokenReferences_eq_nil_iff.mp (hreferences node hnode) input text _ hinput hnames hflow
      obtain ⟨other, hother, hid⟩ := List.mem_map.mp hid
      exact .inr ⟨other, hother, congrArg ModuleId.ofId hid⟩

def namedReference : Graph where
  nodes := [⟨"flow_inputs", "http.call", [], [], none⟩,
    ⟨"send", "http.call", [], [("city", .str "$ref:flow_inputs.output.city")], none⟩]
  edges := [⟨"flow_inputs", "send", none⟩]
  onError := none

theorem resolves_namedReference : namedReference.isValid .builtIn = true ∧
    namedReference.Resolves (ofReference "$ref:flow_inputs.output.city") := by
  have hvalid : namedReference.isValid .builtIn = true := by decide
  have hresolves := @resolves_ofReference_iff .builtIn namedReference namedReference.nodes[1] hvalid
    (by decide) "city" "$ref:flow_inputs.output.city" (by decide) (by decide)
  exact ⟨hvalid, hresolves.mpr fun _ => .inr (by decide)⟩

def strayReference : Graph where
  nodes := [⟨"send", "http.call", [], [("city", .str "$ref:flow_inputs.output.city")], none⟩]
  edges := []
  onError := none

theorem not_resolves_strayReference : strayReference.isValid .builtIn = true ∧
    (∃ node ∈ strayReference.nodes, ("city", Json.str "$ref:flow_inputs.output.city") ∈
      node.inputs) ∧
    mark <+: "$ref:flow_inputs.output.city".toList ∧
    ¬ strayReference.Resolves (ofReference "$ref:flow_inputs.output.city") := by
  refine ⟨by decide, by decide, by decide, ?_⟩
  rw [resolves_ofReference_iff_target]
  decide

end Graph

end Flowplan
