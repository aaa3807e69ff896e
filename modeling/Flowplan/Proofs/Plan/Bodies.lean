import Flowplan.Proofs.Plan.Modules

/-!
# Bodies of modules

What the modules of a scope look like, one for each free step, and what their bodies are in turn. A
module anywhere in a plan is that of a step behind a path of bodies, and its own bodies are
compiled from what the path leaves of the scope.
-/

namespace Flowplan

namespace Plan

theorem mem_preorder_iff {ms : List Module} {m : Module} :
    m ∈ preorder ms ↔ ∃ outer ∈ ms, m = outer ∨ m ∈ preorderOf outer := by
  induction ms with
  | nil => simp [preorder]
  | cons first rest ih => simp [preorder, ih, or_assoc]

def lists (plan : Plan) : List (List Module) :=
  plan.modules :: (preorder plan.modules).flatMap Module.bodies

end Plan

namespace Compile

variable {c : Context} {scope : List Node} {path path' : List Slot} {slot : Slot}
  {construct node : Node} {ms : List Module} {m : Module}

/-- The modules of a scope, with depth enough for all its steps. -/
def Compiles (c : Context) (scope : List Node) (ms : List Module) : Prop :=
  ∃ depth, scope.length ≤ depth ∧ modules c depth scope = .ok ms

namespace Compiles

theorem built (h : Compiles c scope ms) :
    List.Forall₂ (Built c fun slot body => Compiles c (within scope (slot.steps c)) body)
      ((unclaimed c scope).filter (hasModule c.registry)) ms := by
  obtain ⟨depth, hdepth, h⟩ := h
  cases depth with
  | zero =>
    obtain rfl : scope = [] := List.length_eq_zero_iff.mp (by omega)
    cases h
    exact .nil
  | succ depth =>
    obtain ⟨found, hfound, rfl⟩ := modules_succ_eq_ok.mp h
    apply forall₂_filter_filterMap
    have hfree : ∀ node ∈ unclaimed c scope, node ∈ scope :=
      fun node hnode => (mem_unclaimed.mp hnode).1
    refine ((List.forall₂_and_left _ _).mpr ⟨hfree, hfound⟩).imp ?_
    rintro node m ⟨hmem, hm⟩
    refine (built_of_moduleOf hm).imp_left ?_
    rintro ⟨hmodule, m, rfl, hbuilt⟩
    refine ⟨hmodule, m, rfl, hbuilt.imp fun slot hslot body hbody => ⟨depth, ?_, hbody⟩⟩
    have := length_within_lt hmem hslot
    omega

theorem map_id (h : Compiles c scope ms) : ms.map Module.id =
    ((unclaimed c scope).filter (hasModule c.registry)).map fun node => ModuleId.ofId node.id := by
  rw [← List.forall₂_eq_eq_eq, List.forall₂_map_left_iff, List.forall₂_map_right_iff]
  exact (h.built.imp fun _ _ => Built.id_eq).flip

theorem exists_module (h : Compiles c scope ms) (hfree : Free c scope node)
    (hmodule : hasModule c.registry node = true) :
    ∃ m ∈ ms, Built c (fun slot body => Compiles c (within scope (slot.steps c)) body) node m :=
  exists_right_of_mem h.built (List.mem_filter.mpr ⟨mem_unclaimed.mpr hfree, hmodule⟩)

theorem exists_step (h : Compiles c scope ms) (hm : m ∈ ms) :
    ∃ node, Free c scope node ∧ hasModule c.registry node = true ∧
      Built c (fun slot body => Compiles c (within scope (slot.steps c)) body) node m := by
  obtain ⟨node, hnode, hbuilt⟩ := exists_left_of_mem h.built hm
  obtain ⟨hfree, hmodule⟩ := List.mem_filter.mp hnode
  exact ⟨node, mem_unclaimed.mp hfree, hmodule, hbuilt⟩

end Compiles

/-- What the bodies of a path leave of a scope. -/
def scopeAt (c : Context) : List Node → List Slot → List Node
  | scope, [] => scope
  | scope, slot :: path => scopeAt c (within scope (slot.steps c)) path

theorem scopeAt_sublist (scope : List Node) (path : List Slot) :
    (scopeAt c scope path).Sublist scope := by
  induction path generalizing scope with
  | nil => exact List.Sublist.refl scope
  | cons slot path ih => exact (ih _).trans (within_sublist scope _)

theorem Stands.free (h : Stands c scope path node) : Free c (scopeAt c scope path) node := by
  induction h with
  | here hfree => exact hfree
  | inside _ _ _ ih => exact ih

theorem Stands.mem_scopeAt (h : Stands c scope path construct) (hnode : node ∈ scope)
    (hbodies : ∀ outer ∈ scope, ∀ slot ∈ slots c outer, construct.id ∈ slot.steps c →
      node.id ∈ slot.steps c) : node ∈ scopeAt c scope path := by
  induction h with
  | here _ => exact hnode
  | @inside scope outer slot path construct hfree hslot hstands ih =>
    have hid := hbodies outer hfree.1 slot hslot (mem_within.mp hstands.mem).2
    refine ih (mem_within.mpr ⟨hnode, hid⟩) ?_
    exact fun inner hinner => hbodies inner (mem_within.mp hinner).1

theorem Stands.append_cons_iff (h : Stands c scope path construct)
    (hslot : slot ∈ slots c construct) : Stands c scope (path ++ slot :: path') node ↔
      Stands c (within (scopeAt c scope path) (slot.steps c)) path' node := by
  induction h with
  | @here scope construct hfree =>
    constructor
    · rintro (_ | ⟨_, _, h⟩)
      exact h
    · exact .inside hfree hslot
  | inside hfree hslot' _ ih =>
    constructor
    · rintro (_ | ⟨_, _, h⟩)
      exact (ih hslot).mp h
    · exact fun h => .inside hfree hslot' ((ih hslot).mpr h)

namespace Compiles

theorem exists_stands (h : Compiles c scope ms) (hm : m ∈ Plan.preorder ms) :
    ∃ path node, Stands c scope path node ∧ hasModule c.registry node = true ∧
      Built c (fun slot body =>
        Compiles c (within (scopeAt c scope path) (slot.steps c)) body) node m := by
  induction hlength : scope.length using Nat.strongRecOn generalizing scope ms with
  | ind length ih =>
    obtain ⟨outer, houter, rfl | hinner⟩ := Plan.mem_preorder_iff.mp hm
    · obtain ⟨node, hfree, hmodule, hbuilt⟩ := h.exists_step houter
      exact ⟨[], node, .here hfree, hmodule, hbuilt⟩
    · obtain ⟨construct, hfree, _, hbuilt⟩ := h.exists_step houter
      rw [Plan.preorderOf_eq_flatMap, List.mem_flatMap] at hinner
      obtain ⟨body, hbody, hinner⟩ := hinner
      obtain ⟨slot, hslot, hcompiles⟩ := hbuilt.exists_slot hbody
      obtain ⟨path, node, hstands, h⟩ :=
        ih _ (hlength ▸ length_within_lt hfree.1 hslot) hcompiles hinner rfl
      exact ⟨slot :: path, node, .inside hfree hslot hstands, h⟩

theorem exists_module_of_stands (h : Compiles c scope ms) (hstands : Stands c scope path node)
    (hmodule : hasModule c.registry node = true) : ∃ m ∈ Plan.preorder ms,
      Built c (fun slot body =>
        Compiles c (within (scopeAt c scope path) (slot.steps c)) body) node m := by
  induction hstands generalizing ms with
  | here hfree =>
    obtain ⟨m, hm, hbuilt⟩ := h.exists_module hfree hmodule
    exact ⟨m, Plan.mem_preorder_iff.mpr ⟨m, hm, .inl rfl⟩, hbuilt⟩
  | @inside scope construct slot path node hfree hslot _ ih =>
    obtain ⟨outer, houter, hbuilt⟩ := h.exists_module hfree (hasModule_of_mem_slots hslot)
    obtain ⟨body, hbody, hcompiles⟩ := hbuilt.exists_body hslot
    obtain ⟨m, hm, h⟩ := ih hcompiles hmodule
    refine ⟨m, Plan.mem_preorder_iff.mpr ⟨outer, houter, .inr ?_⟩, h⟩
    rw [Plan.preorderOf_eq_flatMap]
    exact List.mem_flatMap_of_mem hbody hm

theorem exists_part (h : Compiles c scope ms) (hm : m ∈ Plan.preorder ms) {body : List Module}
    (hbody : body ∈ m.bodies) : ∃ part, List.Sublist part scope ∧ Compiles c part body := by
  obtain ⟨path, node, _, _, hbuilt⟩ := h.exists_stands hm
  obtain ⟨slot, _, hcompiles⟩ := hbuilt.exists_slot hbody
  exact ⟨_, (within_sublist _ _).trans (scopeAt_sublist scope path), hcompiles⟩

end Compiles

end Compile

end Flowplan
