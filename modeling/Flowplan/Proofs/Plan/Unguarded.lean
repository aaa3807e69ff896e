import Flowplan.Proofs.Plan.Belonging
import Flowplan.Proofs.Plan.Guard

/-!
# Steps that run unguarded

A text on an edge guards the step that the edge leads to only where the edge leaves a
condition or a loop of the main tree. On other edges the texts are not read, so a step that is
led to by such edges alone may stand at the top.
-/

namespace Flowplan

structure Guarded (edges : List Edge) (id : String) : Prop where
  entered : ∃ edge ∈ edges, edge.target = id
  branch : ∀ edge ∈ edges, edge.target = id → edge.branch? ≠ none

theorem Guarded.notMem_afterBranches {edges : List Edge} {id : String} (h : Guarded edges id)
    (source : String) : id ∉ Scope.afterBranches edges source := by
  intro hafter
  obtain ⟨edge, hedge, htarget⟩ := List.mem_map.mp hafter
  obtain ⟨he, hstart⟩ := List.mem_filter.mp hedge
  exact h.branch edge he htarget (Option.isNone_iff_eq_none.mp (Bool.and_eq_true _ _ ▸ hstart).2)

namespace Compile

variable {c : Context} {construct : Node} {slot : Slot} {id : String}

theorem Sorted.exists_edge_or_fed (h : Sorted c) (hid : id ∈ slot.steps c) :
    (∃ edge ∈ c.edges, edge.target = id ∧ edge.source = slot.owner) ∨
      ∀ edge ∈ c.edges, edge.target = id → edge.source ∈ slot.steps c := by
  cases slot with
  | branch owner expr =>
    obtain ⟨_, _, _, hroot | ⟨_, hfed⟩⟩ :=
      (Scope.solves_collect (Scope.decides_branch c.edges owner expr) h.nodup h.forward id).mp hid
    · obtain ⟨edge, he, hsource, htarget, _⟩ := hroot
      exact .inl ⟨edge, he, htarget, hsource⟩
    · exact .inr hfed
  | loop owner =>
    obtain ⟨_, _, hroot | ⟨_, hfed⟩⟩ :=
      (Scope.solves_collect (Scope.decides_loop c.edges owner) h.nodup h.forward id).mp hid
    · obtain ⟨edge, he, hsource, htarget⟩ := hroot
      exact .inl ⟨edge, he, htarget, hsource⟩
    · by_cases hroot : ∃ edge ∈ c.edges, edge.target = id ∧ edge.source = owner
      · exact .inl hroot
      · refine .inr fun edge he htarget => (hfed edge he htarget).resolve_left fun hsource => ?_
        exact hroot ⟨edge, he, htarget, hsource⟩

end Compile

namespace Graph

open Compile

variable {registry : Registry} {graph : Graph} {name : String} {plan : Plan} {construct node : Node}
  {edge : Edge}

def Gates (graph : Graph) (edge : Edge) : Prop :=
  ∃ construct ∈ graph.nodes, construct.id = edge.source ∧ graph.handlerId ≠ some construct.id ∧
    (construct.kind = StepType.condition ∨ construct.kind = StepType.forEach)

instance (graph : Graph) (edge : Edge) : Decidable (graph.Gates edge) :=
  inferInstanceAs (Decidable (∃ construct ∈ graph.nodes, construct.id = edge.source ∧
    graph.handlerId ≠ some construct.id ∧
    (construct.kind = StepType.condition ∨ construct.kind = StepType.forEach)))

theorem exists_module_iff_free (hvalid : graph.isValid registry = true)
    (hcompile : graph.compile registry name = .ok plan) (hnode : node ∈ graph.nodes) :
    (∃ m ∈ plan.modules, m.id = ModuleId.ofId node.id) ↔
      Free (graph.compileContext registry) graph.mainOrder node ∧
      hasModule registry node = true := by
  rw [← List.mem_map, (compiles hcompile).map_id, List.mem_map]
  constructor
  · rintro ⟨other, hother, hid⟩
    obtain ⟨hfree, hmodule⟩ := List.mem_filter.mp hother
    rw [mem_unclaimed] at hfree
    obtain rfl := eq_of_ofId_eq hvalid hfree.1 hnode hid
    exact ⟨hfree, hmodule⟩
  · rintro ⟨hfree, hmodule⟩
    exact ⟨node, List.mem_filter.mpr ⟨mem_unclaimed.mpr hfree, hmodule⟩, rfl⟩

theorem claims_of_edge (hvalid : graph.isValid registry = true)
    (hconstruct : construct ∈ graph.mainOrder)
    (hkind : construct.kind = StepType.condition ∨ construct.kind = StepType.forEach)
    (hnode : node ∈ graph.mainOrder) (hguarded : Guarded graph.edges node.id)
    (he : edge ∈ graph.edges) (hsource : edge.source = construct.id)
    (htarget : edge.target = node.id) : Claims (graph.compileContext registry) construct node := by
  obtain ⟨slot, hleads⟩ : ∃ slot,
      LeadsInto (graph.compileContext registry) construct edge slot := by
    rcases hkind with hcondition | hloop
    · obtain ⟨expr, hexpr⟩ := Option.ne_none_iff_exists'.mp (hguarded.branch edge he htarget)
      exact ⟨_, .branch hcondition hsource hexpr
        (htarget ▸ hguarded.notMem_afterBranches construct.id)⟩
    · exact ⟨_, .loop hloop hsource⟩
  exact ⟨slot, hleads.mem_slots he, target_mem_steps hvalid hconstruct he hleads hnode htarget.symm⟩

theorem claims_iff_of_guarded (hvalid : graph.isValid registry = true)
    (hconstruct : construct ∈ graph.mainOrder) (hnode : node ∈ graph.mainOrder)
    (hguarded : Guarded graph.edges node.id) :
    Claims (graph.compileContext registry) construct node ↔
      ((construct.kind = StepType.condition ∨ construct.kind = StepType.forEach) ∧
        ∃ edge ∈ graph.edges, edge.target = node.id ∧ edge.source = construct.id) ∨
      ∃ slot ∈ slots (graph.compileContext registry) construct, ∀ edge ∈ graph.edges,
        edge.target = node.id →
        edge.source ∈ slot.steps (graph.compileContext registry) := by
  constructor
  · rintro ⟨slot, hslot, hid⟩
    rcases (sorted hvalid).exists_edge_or_fed hid with ⟨edge, he, htarget, hsource⟩ | hfed
    · exact .inl ⟨kind_of_mem_slots hslot, edge, he, htarget,
        hsource.trans (owner_of_mem_slots hslot)⟩
    · exact .inr ⟨slot, hslot, hfed⟩
  · rintro (⟨hkind, edge, he, htarget, hsource⟩ | ⟨slot, hslot, hfed⟩)
    · exact claims_of_edge hvalid hconstruct hkind hnode hguarded he hsource htarget
    · have howner : slot.owner ∈ graph.mainOrder.map Node.id :=
        owner_of_mem_slots hslot ▸ List.mem_map_of_mem hconstruct
      exact ⟨slot, hslot, (sorted hvalid).mem_steps_of_fed howner (List.mem_map_of_mem hnode)
        hguarded.entered hfed⟩

/-- A guarded step that has a module stands at the top exactly when none of the edges to it leaves
a condition or a loop of the main tree and no body has the sources of all of them. -/
theorem exists_module_iff_of_guarded (hvalid : graph.isValid registry = true)
    (hcompile : graph.compile registry name = .ok plan) (hnode : node ∈ graph.nodes)
    (hguarded : Guarded graph.edges node.id) :
    (∃ m ∈ plan.modules, m.id = ModuleId.ofId node.id) ↔
      hasModule registry node = true ∧ graph.handlerId ≠ some node.id ∧
      (∀ edge ∈ graph.edges, edge.target = node.id → ¬ graph.Gates edge) ∧
      ∀ construct ∈ graph.mainOrder, ∀ slot ∈ slots (graph.compileContext registry) construct,
        ∃ edge ∈ graph.edges, edge.target = node.id ∧
          edge.source ∉ slot.steps (graph.compileContext registry) := by
  rw [exists_module_iff_free hvalid hcompile hnode, Free, mem_mainOrder hvalid]
  constructor
  · rintro ⟨⟨⟨_, hmain⟩, hclaims⟩, hmodule⟩
    have hordered := (mem_mainOrder hvalid).mpr ⟨hnode, hmain⟩
    have hunclaimed := fun construct hconstruct =>
      (claims_iff_of_guarded hvalid hconstruct hordered hguarded).not.mp
        (hclaims construct hconstruct)
    refine ⟨hmodule, hmain, ?_, ?_⟩
    · rintro edge he htarget ⟨construct, hconstruct, hsource, hapart, hkind⟩
      have hconstruct := (mem_mainOrder hvalid).mpr ⟨hconstruct, hapart⟩
      exact hunclaimed construct hconstruct (.inl ⟨hkind, edge, he, htarget, hsource.symm⟩)
    · intro construct hconstruct slot hslot
      by_contra hout
      refine hunclaimed construct hconstruct (.inr ⟨slot, hslot, fun edge he htarget => ?_⟩)
      by_contra hsource
      exact hout ⟨edge, he, htarget, hsource⟩
  · rintro ⟨hmodule, hmain, hgates, hbodies⟩
    have hordered := (mem_mainOrder hvalid).mpr ⟨hnode, hmain⟩
    refine ⟨⟨⟨hnode, hmain⟩, fun construct hconstruct hclaims => ?_⟩, hmodule⟩
    rcases (claims_iff_of_guarded hvalid hconstruct hordered hguarded).mp hclaims with
      ⟨hkind, edge, he, htarget, hsource⟩ | ⟨slot, hslot, hfed⟩
    · obtain ⟨hmem, hapart⟩ := (mem_mainOrder hvalid).mp hconstruct
      exact hgates edge he htarget ⟨construct, hmem, hsource.symm, hapart, hkind⟩
    · obtain ⟨edge, he, htarget, hsource⟩ := hbodies construct hconstruct slot hslot
      exact hsource (hfed edge he htarget)

def halfGuarded (handler : Option String) : Graph where
  nodes := [.bare "check" StepType.condition, .bare "fetch" "http.call", .bare "send" "http.call",
    .bare "notify" "http.call"]
  edges := [⟨"fetch", "send", some "flow_input.a"⟩, ⟨"check", "notify", some "flow_input.a"⟩]
  onError := handler

/-- Only the condition guards. -/
theorem guards_halfGuarded : (halfGuarded none).isValid .builtIn = true ∧
    Guarded (halfGuarded none).edges "send" ∧ Guarded (halfGuarded none).edges "notify" ∧
    ∃ plan, (halfGuarded none).compile .builtIn "x" = .ok plan ∧
      (∃ m ∈ plan.modules, m.id = ModuleId.ofId "send") ∧ ¬ ∃ m ∈ plan.modules,
      m.id = ModuleId.ofId "notify" := by
  have hvalid : (halfGuarded none).isValid .builtIn = true := by decide
  have hsend : Guarded (halfGuarded none).edges "send" := ⟨by decide, by decide⟩
  have hnotify : Guarded (halfGuarded none).edges "notify" := ⟨by decide, by decide⟩
  have htop := @exists_module_iff_of_guarded .builtIn (halfGuarded none) "x"
    _ (.bare "send" "http.call") hvalid rfl (by decide) hsend
  have hinside := @exists_module_iff_of_guarded .builtIn (halfGuarded none) "x"
    _ (.bare "notify" "http.call") hvalid rfl (by decide) hnotify
  refine ⟨hvalid, hsend, hnotify, _, rfl, htop.mpr (by decide), fun h => ?_⟩
  have hgates := (hinside.mp h).2.2.1
  revert hgates
  decide

/-- No text is read on the edges of a call, and none on those of a
condition that handles failures. -/
theorem unguarded_halfGuarded : (halfGuarded (some "check")).isValid .builtIn = true ∧
    Guarded (halfGuarded (some "check")).edges "send" ∧
    Guarded (halfGuarded (some "check")).edges "notify" ∧
    ∃ plan, (halfGuarded (some "check")).compile .builtIn "x" = .ok plan ∧
      plan.modules.map Module.id = ["fetch", "notify", "send"] := by
  refine ⟨by decide, ⟨by decide, by decide⟩, ⟨by decide, by decide⟩, _, rfl, ?_⟩
  decide

end Graph

end Flowplan
