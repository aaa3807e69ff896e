import Flowplan.Proofs.Plan.Compiled
import Flowplan.Proofs.Plan.Exclusive

/-!
# Coverage

Which steps have a module. A step is lost where the constructs that claim it are
themselves claimed by others that do not claim it.
-/

namespace Flowplan

namespace Compile

variable {c : Context} {scope : List Node} {node : Node}

theorem Claims.before {construct : Node} (hsorted : Sorted c) (hconstruct : construct ∈ c.ordered)
    (h : Claims c construct node) : Before (c.ordered.map Node.id) construct.id node.id := by
  obtain ⟨slot, hslot, hid⟩ := h
  have howner := owner_of_mem_slots hslot
  exact howner ▸ hsorted.before_of_mem_steps (howner ▸ List.mem_map_of_mem hconstruct) hid

/-- The first construct of a scope that claims a step is free, unless
one claims it that does not claim the step. -/
theorem exists_free_claimer (hsorted : Sorted c) (hscope : scope.Sublist c.ordered)
    (hclaims : ∀ outer ∈ scope, ∀ inner ∈ scope, Claims c outer inner → Claims c inner node →
      Claims c outer node)
    (h : ∃ construct ∈ scope, Claims c construct node) :
    ∃ construct, Free c scope construct ∧ Claims c construct node := by
  -- a construct that claims the first claimer comes before it, and claims the step as well
  cases hclaimers : scope.filter fun construct => Claims c construct node with
  | nil =>
    obtain ⟨construct, hconstruct, hclaim⟩ := h
    exact absurd hclaim (by simpa using List.filter_eq_nil_iff.mp hclaimers construct hconstruct)
  | cons first rest =>
    have hfirst : first ∈ scope ∧ Claims c first node := by
      have hmem : first ∈ scope.filter fun construct => Claims c construct node := by
        rw [hclaimers]
        exact List.mem_cons_self
      simpa using hmem
    refine ⟨first, ⟨hfirst.1, ?_⟩, hfirst.2⟩
    intro outer houter hclaim
    have hback := hclaim.before hsorted (hscope.subset houter)
    have hmem : outer ∈ first :: rest := by
      rw [← hclaimers]
      simpa using ⟨houter, hclaims outer houter first hfirst.1 hclaim hfirst.2⟩
    have hpairwise := pairwise_before (hclaimers ▸ List.filter_sublist.trans hscope)
    rcases List.mem_cons.mp hmem with rfl | hmem
    · exact Before.irrefl hsorted.nodup hback
    · exact (((List.pairwise_cons.mp hpairwise).1 outer hmem).map Node.id).asymm hsorted.nodup hback

theorem exists_stands (hsorted : Sorted c) (hscope : scope.Sublist c.ordered) (hnode : node ∈ scope)
    (hclaims : ∀ outer ∈ scope, ∀ inner ∈ scope, Claims c outer inner → Claims c inner node →
      Claims c outer node) : ∃ path, Stands c scope path node := by
  -- on the size of the scope, since a body of the free claimer is a
  -- smaller scope with the step in it
  induction hlength : scope.length using Nat.strong_induction_on generalizing scope with
  | h length ih =>
    by_cases h : ∃ construct ∈ scope, Claims c construct node
    · obtain ⟨construct, hfree, slot, hslot, hid⟩ := exists_free_claimer hsorted hscope hclaims h
      have hsublist := within_sublist scope (slot.steps c)
      obtain ⟨path, hpath⟩ :=
        ih _ (hlength ▸ length_within_lt hfree.1 hslot) (hsublist.trans hscope)
        (mem_within.mpr ⟨hnode, hid⟩)
        (fun outer houter inner hinner => hclaims outer (hsublist.subset houter) inner
          (hsublist.subset hinner)) rfl
      exact ⟨slot :: path, .inside hfree hslot hpath⟩
    · exact ⟨[], .here ⟨hnode, by simpa using h⟩⟩

end Compile

namespace Graph

open Compile

variable {registry : Registry} {graph : Graph} {name : String} {plan : Plan} {node : Node}

/-- A step has a module exactly where it stands somewhere. It does unless a construct claims one
that claims the step, and not the step itself, which no exclusive bodies do. -/
theorem exists_module_iff_stands (hvalid : graph.isValid registry = true)
    (hcompile : graph.compile registry name = .ok plan) (hnode : node ∈ graph.nodes)
    (hmain : graph.handlerId ≠ some node.id) (hkind : hasModule registry node = true) :
    ((∃ m ∈ Plan.preorder plan.modules, m.id = ModuleId.ofId node.id) ↔
      ∃ path, graph.Stands registry path node) ∧
    ((∀ outer ∈ graph.mainOrder, ∀ inner ∈ graph.mainOrder,
      Claims (graph.compileContext registry) outer inner →
        Claims (graph.compileContext registry) inner node →
        Claims (graph.compileContext registry) outer node) →
      ∃ m ∈ Plan.preorder plan.modules, m.id = ModuleId.ofId node.id) ∧
    (Exclusive (graph.compileContext registry) → ∃ m ∈ Plan.preorder plan.modules,
      m.id = ModuleId.ofId node.id) := by
  have hiff : (∃ m ∈ Plan.preorder plan.modules, m.id = ModuleId.ofId node.id) ↔
      ∃ path, graph.Stands registry path node := by
    rw [mem_preorder hcompile]
    constructor
    · rintro ⟨path, other, hstands, _, hid⟩
      have hother := ((mem_mainOrder hvalid).mp hstands.mem).1
      exact ⟨path, id_eq_of_ofId_eq hvalid hother hnode hid ▸ hstands⟩
    · rintro ⟨path, hstands⟩
      exact ⟨path, node, hstands, hkind, rfl⟩
  have hmem : node ∈ graph.mainOrder := (mem_mainOrder hvalid).mpr ⟨hnode, hmain⟩
  refine ⟨hiff, ?_, ?_⟩
  · intro hclaims
    exact hiff.mpr (exists_stands (sorted hvalid) (List.Sublist.refl _) hmem hclaims)
  · intro hexclusive
    refine hiff.mpr (exists_stands (sorted hvalid) (List.Sublist.refl _) hmem ?_)
    intro outer houter inner hinner
    exact hexclusive.claims_trans (sorted hvalid) houter hinner

def nestedBranches : Graph where
  nodes := [
    .bare "outer" StepType.condition, .bare "inner" StepType.condition, .bare "send" "http.call"]
  edges := [⟨"outer", "inner", some "flow_input.a"⟩, ⟨"inner", "send", some "flow_input.b"⟩]
  onError := none

theorem exists_module_nestedBranches : ∃ plan, nestedBranches.compile .builtIn "x" = .ok plan ∧
    ∃ m ∈ Plan.preorder plan.modules, m.id = ModuleId.ofId "send" := by
  refine ⟨_, rfl, ?_⟩
  have hcovered :=
    @exists_module_iff_stands .builtIn nestedBranches "x" _ (.bare "send" "http.call")
    (by decide) rfl (by decide) (by decide) (by decide)
  exact hcovered.2.2 (by decide)

/-- The inner branch also waits for a step outside: it claims `send`, and the
outer branch only claims the inner condition. -/
def crossedBranches : Graph where
  nodes := [
    .bare "outer" StepType.condition, .bare "inner" StepType.condition, .bare "fetch" "http.call",
    .bare "send" "http.call"]
  edges := [⟨"outer", "inner", some "flow_input.a"⟩, ⟨"inner", "send", some "flow_input.b"⟩,
    ⟨"fetch", "send", none⟩]
  onError := none

theorem lost_crossedBranches : crossedBranches.isValid .builtIn = true ∧
    .bare "send" "http.call" ∈ crossedBranches.nodes ∧ crossedBranches.onError = none ∧
    Registry.builtIn.scriptPath "http.call" = some "f/nodes/http_call" ∧
    ∃ plan, crossedBranches.compile .builtIn "x" = .ok plan ∧
      ¬ ∃ m ∈ Plan.preorder plan.modules, m.id = ModuleId.ofId "send" := by
  refine ⟨by decide, by decide, rfl, by decide, _, rfl, ?_⟩
  decide

end Graph

end Flowplan
