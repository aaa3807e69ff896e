import Flowplan.Proofs.Plan.Compiled
import Flowplan.Proofs.Plan.Exclusive

/-!
# Sequence

Which of two steps the engine reaches first. A step that others lead to comes too early where a
construct pulls it into a body, and what it waits for stands behind that construct.
-/

namespace Flowplan

namespace Graph

open Compile

variable {registry : Registry} {graph : Graph} {name : String} {plan : Plan}

theorem earlier_iff_not_behind_of_edge (hvalid : graph.isValid registry = true) {edge : Edge}
    (he : edge ∈ graph.edges) {first second : Spot}
    (hfirst : graph.Stands registry first.1 first.2 ∧ first.2.id = edge.source)
    (hsecond : graph.Stands registry second.1 second.2 ∧ second.2.id = edge.target) :
    Earlier (graph.compileContext registry) first second ↔
      ¬ Behind (graph.compileContext registry) first second.1 := by
  obtain ⟨path, source⟩ := first
  obtain ⟨path', target⟩ := second
  obtain ⟨hsource, hid⟩ := hfirst
  obtain ⟨htarget, hid'⟩ := hsecond
  have hbefore : Before ((graph.compileContext registry).ordered.map Node.id) source.id
      target.id := by
    have hmem := List.mem_map_of_mem (f := Node.id) hsource.mem
    have hmem' := List.mem_map_of_mem (f := Node.id) htarget.mem
    rw [hid] at hmem ⊢
    rw [hid'] at hmem' ⊢
    exact (sorted hvalid).forward edge he hmem hmem'
  exact earlier_iff_not_behind (sorted hvalid) (List.Subset.refl _) hbefore hsource htarget

/-- Of the steps of an edge, the first module of its source comes before that of its
target exactly where the source has a place that is behind no body around a place of the
target. It does where bodies are exclusive. -/
theorem idxOf_source_lt_idxOf_target_iff (hvalid : graph.isValid registry = true)
    (hcompile : graph.compile registry name = .ok plan) {edge : Edge} (he : edge ∈ graph.edges)
    (hsource : ∃ m ∈ Plan.preorder plan.modules, m.id = ModuleId.ofId edge.source)
    (htarget : ∃ m ∈ Plan.preorder plan.modules, m.id = ModuleId.ofId edge.target) :
    (((Plan.preorder plan.modules).map Module.id).idxOf (ModuleId.ofId edge.source) <
        ((Plan.preorder plan.modules).map Module.id).idxOf (ModuleId.ofId edge.target) ↔
      ∃ path source, graph.Stands registry path source ∧ source.id = edge.source ∧
        ∀ path' target, graph.Stands registry path' target → target.id = edge.target →
          ¬ Behind (graph.compileContext registry) (path, source) path') ∧
    (Exclusive (graph.compileContext registry) →
      ((Plan.preorder plan.modules).map Module.id).idxOf (ModuleId.ofId edge.source) <
        ((Plan.preorder plan.modules).map Module.id).idxOf (ModuleId.ofId edge.target)) := by
  have hends := mem_ids_of_edge hvalid he
  have hsources := mem_sites_iff_of_module hvalid hcompile hends.1 hsource
  have htargets := mem_sites_iff_of_module hvalid hcompile hends.2 htarget
  have hiff : ((Plan.preorder plan.modules).map Module.id).idxOf (ModuleId.ofId edge.source) <
        ((Plan.preorder plan.modules).map Module.id).idxOf (ModuleId.ofId edge.target) ↔
      ∃ path source, graph.Stands registry path source ∧ source.id = edge.source ∧
        ∀ path' target, graph.Stands registry path' target → target.id = edge.target →
          ¬ Behind (graph.compileContext registry) (path, source) path' := by
    rw [map_id_preorder hcompile,
      idxOf_lt_idxOf_iff (fun _ _ => Earlier.asymm (sorted hvalid)) (pairwise_sites graph registry)]
    constructor
    · rintro ⟨⟨path, source⟩, hsite, hid, hall⟩
      have hx := (hsources (path, source)).mp ⟨hsite, hid⟩
      refine ⟨path, source, hx.1, hx.2, ?_⟩
      intro path' target hstands htarget
      have hy := (htargets (path', target)).mpr ⟨hstands, htarget⟩
      exact (earlier_iff_not_behind_of_edge hvalid he hx ⟨hstands, htarget⟩).mp (hall _ hy.1 hy.2)
    · rintro ⟨path, source, hstands, hid, hall⟩
      have hx := (hsources (path, source)).mpr ⟨hstands, hid⟩
      refine ⟨(path, source), hx.1, hx.2, ?_⟩
      intro y hsite htarget
      have hy := (htargets y).mp ⟨hsite, htarget⟩
      exact (earlier_iff_not_behind_of_edge hvalid he ⟨hstands, hid⟩ hy).mpr
        (hall y.1 y.2 hy.1 hy.2)
  refine ⟨hiff, fun hexclusive => hiff.mpr ?_⟩
  obtain ⟨path, source, hstands, hmodule, hofId⟩ := (mem_preorder hcompile).mp hsource
  have hx := (hsources (path, source)).mp ⟨mem_sites.mpr ⟨hstands, hmodule⟩, hofId⟩
  refine ⟨path, source, hx.1, hx.2, ?_⟩
  intro path' target htarget hid
  exact hexclusive.not_behind (sorted hvalid) he (List.Subset.refl _) hx.1 hx.2 htarget hid

def steppedBranch : Graph where
  nodes := [.bare "check" StepType.condition, .bare "fetch" "http.call", .bare "send" "http.call"]
  edges := [⟨"check", "fetch", some "flow_input.a"⟩, ⟨"check", "send", some "flow_input.a"⟩,
    ⟨"fetch", "send", none⟩]
  onError := none

theorem not_behind_steppedBranch : steppedBranch.isValid .builtIn = true ∧
    ∃ path source, steppedBranch.Stands .builtIn path source ∧ source.id = "fetch" ∧
      ∀ path' target, steppedBranch.Stands .builtIn path' target → target.id = "send" →
        ¬ Behind (steppedBranch.compileContext .builtIn) (path, source) path' := by
  have hvalid : steppedBranch.isValid .builtIn = true := by decide
  refine ⟨hvalid, ?_⟩
  have hiff := @idxOf_source_lt_idxOf_target_iff .builtIn steppedBranch "x" _ hvalid rfl
    ⟨"fetch", "send", none⟩ (by decide) (by decide) (by decide)
  exact hiff.1.mp (hiff.2 (by decide))

def pulledBranch : Graph where
  nodes := [.bare "check" StepType.condition, .bare "fetch" "http.call", .bare "send" "http.call"]
  edges := [⟨"check", "send", some "flow_input.a"⟩, ⟨"fetch", "send", none⟩]
  onError := none

theorem target_first_pulledBranch : pulledBranch.isValid .builtIn = true ∧
    ⟨"fetch", "send", none⟩ ∈ pulledBranch.edges ∧
    ∃ plan, pulledBranch.compile .builtIn "x" = .ok plan ∧
      (∃ m ∈ Plan.preorder plan.modules, m.id = ModuleId.ofId "fetch") ∧
      (∃ m ∈ Plan.preorder plan.modules, m.id = ModuleId.ofId "send") ∧
      ¬ ((Plan.preorder plan.modules).map Module.id).idxOf (ModuleId.ofId "fetch") <
        ((Plan.preorder plan.modules).map Module.id).idxOf (ModuleId.ofId "send") := by
  refine ⟨by decide, by decide, _, rfl, ?_, ?_, ?_⟩
  · decide
  · decide
  · decide

end Graph

end Flowplan
