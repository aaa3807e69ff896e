import Flowplan.Proofs.Plan.Coverage
import Flowplan.Proofs.Plan.Nesting

/-!
# Guards

Whether what a construct leads to runs inside the construct. A body is cut down to what the bodies
around it hold, so it loses a step that they do not hold.
-/

namespace Flowplan

namespace Compile

variable {c : Context} {scope : List Node} {construct node : Node} {edge : Edge} {slot : Slot}
  {path : List Slot}

/-- An edge from a construct into a body of it: along a branch to a step that does
not run after all branches, or into a loop. -/
inductive LeadsInto (c : Context) (construct : Node) (edge : Edge) : Slot → Prop
  | branch {expr} : construct.kind = StepType.condition → edge.source = construct.id →
      edge.branch? = some expr →
      edge.target ∉ Scope.afterBranches c.edges construct.id →
      LeadsInto c construct edge (.branch construct.id expr)
  | loop : construct.kind = StepType.forEach → edge.source = construct.id →
      LeadsInto c construct edge (.loop construct.id)

namespace LeadsInto

theorem mem_slots (h : LeadsInto c construct edge slot) (he : edge ∈ c.edges) :
    slot ∈ slots c construct := by
  cases h with
  | branch hkind hsource hexpr _ =>
    rw [slots_condition hkind]
    exact List.mem_map_of_mem (hsource ▸ Scope.mem_expressions_of_edge he hexpr)
  | loop hkind _ => simp [slots_forEach hkind]

theorem source_eq (h : LeadsInto c construct edge slot) : edge.source = construct.id := by
  cases h with
  | branch _ hsource _ _ => exact hsource
  | loop _ hsource => exact hsource

theorem target_mem_steps (h : LeadsInto c construct edge slot) (he : edge ∈ c.edges)
    (hmem : edge.target ∈ c.ordered.map Node.id) (hne : edge.target ≠ construct.id) :
    edge.target ∈ slot.steps c := by
  cases h with
  | branch _ hsource hexpr hafter => exact Scope.target_mem_branch he hsource hexpr hmem hne hafter
  | loop _ hsource => exact Scope.target_mem_loop he hsource hmem hne

end LeadsInto

/-- Each body with a construct that claims a step has the step, too. -/
def Covered (c : Context) (node : Node) : Prop :=
  ∀ outer ∈ c.ordered, ∀ inner ∈ c.ordered, ∀ around ∈ slots c outer, inner.id ∈ around.steps c →
    Claims c inner node →
    node.id ∈ around.steps c

theorem Exclusive.covered (hexclusive : Exclusive c) (hsorted : Sorted c) : Covered c node := by
  rintro outer houter inner hinner around haround hinside ⟨slot, hslot, hid⟩
  exact hexclusive.steps_subset hsorted houter haround hinner hslot hinside hid

theorem Covered.exists_stands (hcovered : Covered c node) (hsorted : Sorted c)
    (hscope : scope.Sublist c.ordered) (hstands : Stands c scope path construct)
    (hslot : slot ∈ slots c construct) (hnode : node ∈ scope) (hid : node.id ∈ slot.steps c) :
    ∃ path', Stands c scope (path ++ slot :: path') node := by
  have hconstruct := hscope.subset hstands.mem
  -- no body of the path drops the step, and what is left is one more scope in which it stands
  have hleft : node ∈ scopeAt c scope path := by
    refine hstands.mem_scopeAt hnode fun outer houter around haround hinside => ?_
    exact hcovered outer (hscope.subset houter) construct hconstruct around haround hinside
      ⟨slot, hslot, hid⟩
  have hbody : (within (scopeAt c scope path) (slot.steps c)).Sublist c.ordered :=
    (within_sublist _ _).trans ((scopeAt_sublist scope path).trans hscope)
  have hclaims : ∀ outer ∈ within (scopeAt c scope path) (slot.steps c),
      ∀ inner ∈ within (scopeAt c scope path) (slot.steps c),
        Claims c outer inner → Claims c inner node → Claims c outer node := by
    rintro outer houter inner hinner ⟨around, haround, hinside⟩ hclaim
    have hheld :=
      hcovered outer (hbody.subset houter) inner (hbody.subset hinner) around haround hinside hclaim
    exact ⟨around, haround, hheld⟩
  obtain ⟨path', hpath'⟩ :=
    Compile.exists_stands hsorted hbody (mem_within.mpr ⟨hleft, hid⟩) hclaims
  exact ⟨path', (Stands.append_cons_iff hstands hslot).mpr hpath'⟩

end Compile

namespace Graph

open Compile

variable {registry : Registry} {graph : Graph} {name : String} {plan : Plan} {construct node : Node}
  {edge : Edge} {slot : Slot}

def Encloses (registry : Registry) (graph : Graph) (plan : Plan) (construct : Node) (slot : Slot)
    (node : Node) : Prop :=
  ∀ m ∈ Plan.preorder plan.modules, m.id = ModuleId.ofId construct.id →
    Built (graph.compileContext registry) (fun other body => other = slot →
      ∃ inner ∈ Plan.preorder body, inner.id = ModuleId.ofId node.id) construct m

theorem encloses_iff_stands (hvalid : graph.isValid registry = true)
    (hcompile : graph.compile registry name = .ok plan) (hconstruct : construct ∈ graph.nodes)
    (hslot : slot ∈ slots (graph.compileContext registry) construct) (hnode : node ∈ graph.nodes)
    (hmodule : hasModule registry node = true) : graph.Encloses registry plan construct slot node ↔
      ∀ path, graph.Stands registry path construct → ∃ path',
        graph.Stands registry (path ++ slot :: path') node := by
  constructor
  · intro h path hstands
    obtain ⟨m, hm, hbuilt⟩ :=
      (compiles hcompile).exists_module_of_stands hstands (hasModule_of_mem_slots hslot)
    have hholds :=
      hbuilt.mp (h m hm hbuilt.id_eq) (fun _ _ _ hcompiles hinner => And.intro hcompiles hinner)
    obtain ⟨body, _, hcompiles, hinner⟩ := hholds.exists_body hslot
    obtain ⟨inner, hinner, hid⟩ := hinner rfl
    obtain ⟨path', other, hinside, _, hother⟩ := hcompiles.exists_stands hinner
    have hmain := (scopeAt_sublist graph.mainOrder path).subset (mem_within.mp hinside.mem).1
    obtain rfl : other = node := eq_of_ofId_eq hvalid hmain hnode (hother.id_eq.symm.trans hid)
    exact ⟨path', (Stands.append_cons_iff hstands hslot).mpr hinside⟩
  · intro h m hm hid
    obtain ⟨path, other, hstands, _, hbuilt⟩ := (compiles hcompile).exists_stands hm
    obtain rfl : other = construct :=
      eq_of_ofId_eq hvalid hstands.mem hconstruct (hbuilt.id_eq.symm.trans hid)
    refine hbuilt.imp fun slot' _ body hcompiles hslot' => ?_
    subst hslot'
    obtain ⟨path', hinside⟩ := h path hstands
    have hinside := (Stands.append_cons_iff hstands hslot).mp hinside
    obtain ⟨inner, hinner, hnode⟩ := hcompiles.exists_module_of_stands hinside hmodule
    exact ⟨inner, hinner, hnode.id_eq⟩

theorem target_mem_steps (hvalid : graph.isValid registry = true)
    (hconstruct : construct ∈ graph.mainOrder) (he : edge ∈ graph.edges)
    (hleads : LeadsInto (graph.compileContext registry) construct edge slot)
    (hnode : node ∈ graph.mainOrder) (htarget : node.id = edge.target) :
    node.id ∈ slot.steps (graph.compileContext registry) := by
  have hmem : edge.target ∈ graph.mainOrder.map Node.id := htarget ▸ List.mem_map_of_mem hnode
  have hsource : edge.source ∈ graph.mainOrder.map Node.id :=
    hleads.source_eq ▸ List.mem_map_of_mem hconstruct
  have hbefore := (sorted hvalid).forward edge he hsource hmem
  rw [htarget]
  refine hleads.target_mem_steps he hmem fun hself => ?_
  rw [hself, hleads.source_eq] at hbefore
  exact hbefore.irrefl (sorted hvalid).nodup

/-- Every module of a construct has the module of what an edge of it leads to in the body of the
edge exactly when the step stands in that body wherever the construct stands. It does where each
body with a construct that claims the step has the step, too, and so in exclusive bodies. -/
theorem encloses_target_iff (hvalid : graph.isValid registry = true)
    (hcompile : graph.compile registry name = .ok plan) (hconstruct : construct ∈ graph.nodes)
    (he : edge ∈ graph.edges)
    (hleads : LeadsInto (graph.compileContext registry) construct edge slot)
    (hnode : node ∈ graph.nodes) (htarget : node.id = edge.target)
    (hmain : graph.handlerId ≠ some node.id) (hmodule : hasModule registry node = true) :
    (graph.Encloses registry plan construct slot node ↔
      ∀ path, graph.Stands registry path construct → ∃ path',
        graph.Stands registry (path ++ slot :: path') node) ∧
    (Covered (graph.compileContext registry) node →
      graph.Encloses registry plan construct slot node) ∧
    (Exclusive (graph.compileContext registry) →
      graph.Encloses registry plan construct slot node) := by
  have hslot := hleads.mem_slots he
  have hiff := encloses_iff_stands hvalid hcompile hconstruct hslot hnode hmodule
  have hmem : node ∈ graph.mainOrder := (mem_mainOrder hvalid).mpr ⟨hnode, hmain⟩
  have hcovered : Covered (graph.compileContext registry) node →
      graph.Encloses registry plan construct slot node := by
    intro hcovered
    refine hiff.mpr fun path hstands => ?_
    have hid := target_mem_steps hvalid hstands.mem he hleads hmem htarget
    exact hcovered.exists_stands (sorted hvalid) (List.Sublist.refl _) hstands hslot hmem hid
  exact ⟨hiff, hcovered, fun hexclusive => hcovered (hexclusive.covered (sorted hvalid))⟩

theorem encloses_target_nestedBranches : ∃ plan, nestedBranches.compile .builtIn "x" = .ok plan ∧
    nestedBranches.Encloses .builtIn plan (.bare "inner" StepType.condition)
      (.branch "inner" "flow_input.b") (.bare "send" "http.call") := by
  refine ⟨_, rfl, ?_⟩
  have hencloses :=
    @encloses_target_iff .builtIn nestedBranches "x" _ (.bare "inner" StepType.condition)
    (.bare "send" "http.call") ⟨"inner", "send", some "flow_input.b"⟩
      (.branch "inner" "flow_input.b")
    (by decide) rfl (by decide) (by decide) (.branch rfl rfl rfl (by decide))
    (by decide) rfl (by decide) (by decide)
  exact hencloses.2.2 (by decide)

/-- The outer branch does not hold `send`, and so the branch of the
inner condition in it is empty. -/
theorem unguarded_crossedBranches : crossedBranches.isValid .builtIn = true ∧
    ⟨"inner", "send", some "flow_input.b"⟩ ∈ crossedBranches.edges ∧
    "send" ∉ Scope.afterBranches crossedBranches.edges "inner" ∧ crossedBranches.onError = none ∧
    Registry.builtIn.scriptPath "http.call" = some "f/nodes/http_call" ∧
    ∃ plan, crossedBranches.compile .builtIn "x" = .ok plan ∧
      ∃ m ∈ Plan.preorder plan.modules, m.id = ModuleId.ofId "inner" ∧
        ∀ inner ∈ Plan.preorderOf m, inner.id ≠ ModuleId.ofId "send" := by
  refine ⟨by decide, by decide, by decide, rfl, by decide, _, rfl, ?_⟩
  decide

end Graph

end Flowplan
