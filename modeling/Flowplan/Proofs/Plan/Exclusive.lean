import Flowplan.Proofs.Plan.Place

/-!
# Exclusive bodies

When only its construct and its own steps lead into a body, bodies are nested or apart: every step
has one place, and what leads to a step of a body is the construct of the body or in it.
-/

namespace Flowplan.Compile

variable {c : Context} {scope : List Node} {first second node : Node} {slot slot' : Slot}
  {path path' : List Slot}

/-- Every edge into a body comes from its construct, along the branch
if it is one, or from the body. -/
def Exclusive (c : Context) : Prop :=
  ∀ construct ∈ c.ordered, ∀ slot ∈ slots c construct, ∀ edge ∈ c.edges,
    edge.target ∈ slot.steps c →
    slot.Feeds edge ∨ edge.source ∈ slot.steps c

instance (slot : Slot) (edge : Edge) : Decidable (slot.Feeds edge) :=
  match slot with
  | .branch owner expr =>
    inferInstanceAs (Decidable (edge.source = owner ∧ edge.branch? = some expr))
  | .loop owner => inferInstanceAs (Decidable (edge.source = owner))

instance (c : Context) : Decidable (Exclusive c) :=
  inferInstanceAs (Decidable (∀ construct ∈ c.ordered, ∀ slot ∈ slots c construct, ∀ edge ∈ c.edges,
    edge.target ∈ slot.steps c → slot.Feeds edge ∨ edge.source ∈ slot.steps c))

theorem eq_of_feeds {edge : Edge} (hslot : slot ∈ slots c node) (hslot' : slot' ∈ slots c node)
    (h : slot.Feeds edge) (h' : slot'.Feeds edge) : slot = slot' := by
  by_cases hcondition : node.kind = StepType.condition
  · rw [slots_condition hcondition] at hslot hslot'
    obtain ⟨expr, _, rfl⟩ := List.mem_map.mp hslot
    obtain ⟨expr', _, rfl⟩ := List.mem_map.mp hslot'
    exact congrArg (Slot.branch node.id) (Option.some.inj (h.2.symm.trans h'.2))
  · by_cases hloop : node.kind = StepType.forEach
    · rw [slots_forEach hloop, List.mem_singleton] at hslot hslot'
      exact hslot.trans hslot'.symm
    · simp [slots_step hcondition hloop] at hslot

theorem Free.not_mem_steps (hfree : Free c scope node) (hfirst : first ∈ scope)
    (hslot : slot ∈ slots c first) : node.id ∉ slot.steps c :=
  fun hid => hfree.2 first hfirst ⟨slot, hslot, hid⟩

namespace Exclusive

variable (hexclusive : Exclusive c) (hsorted : Sorted c)

include hexclusive hsorted

theorem steps_subset (hfirst : first ∈ c.ordered) (hslot : slot ∈ slots c first)
    (hsecond : second ∈ c.ordered) (hslot' : slot' ∈ slots c second)
    (hmem : second.id ∈ slot.steps c) : slot'.steps c ⊆ slot.steps c := by
  have howner : slot.owner ∈ c.ordered.map Node.id :=
    owner_of_mem_slots hslot ▸ List.mem_map_of_mem hfirst
  intro id hid
  refine before_induction (P := fun id => id ∈ slot'.steps c → id ∈ slot.steps c)
    hsorted.nodup ?_ id (mem_ordered_of_mem_steps hid) hid
  intro id hordered ih hid
  obtain ⟨entry, hentry, htarget, _⟩ := exists_edge_of_mem_steps hid
  refine hsorted.mem_steps_of_fed howner hordered ⟨entry, hentry, htarget⟩ ?_
  rintro edge he rfl
  rcases hexclusive second hsecond slot' hslot' edge he hid with hfeeds | hsource
  · rw [hfeeds.source_eq, owner_of_mem_slots hslot']
    exact hmem
  · exact ih edge.source (hsorted.forward edge he (mem_ordered_of_mem_steps hsource) hordered)
      hsource

theorem claims_trans (hfirst : first ∈ c.ordered) (hsecond : second ∈ c.ordered)
    (h : Claims c first second) (h' : Claims c second node) : Claims c first node := by
  obtain ⟨slot, hslot, hmem⟩ := h
  obtain ⟨slot', hslot', hid⟩ := h'
  exact ⟨slot, hslot, steps_subset hexclusive hsorted hfirst hslot hsecond hslot' hmem hid⟩

theorem not_mem_steps_of_ne (hscope : scope ⊆ c.ordered) (hfirst : Free c scope first)
    (hsecond : Free c scope second) (hslot : slot ∈ slots c first) (hslot' : slot' ∈ slots c second)
    (hne : slot ≠ slot') {id : String} (hid : id ∈ slot.steps c) : id ∉ slot'.steps c := by
  refine before_induction (P := fun id => id ∈ slot.steps c → id ∉ slot'.steps c)
    hsorted.nodup ?_ id (mem_ordered_of_mem_steps hid) hid
  intro id hordered ih hid hid'
  obtain ⟨edge, he, rfl, hleads⟩ := exists_edge_of_mem_steps hid
  have hleads' := hexclusive second (hscope hsecond.1) slot' hslot' edge he hid'
  rcases hleads with hfeeds | hsource <;> rcases hleads' with hfeeds' | hsource'
  · have howners : first.id = second.id := by
      rw [← owner_of_mem_slots hslot, ← owner_of_mem_slots hslot', ← hfeeds.source_eq,
        ← hfeeds'.source_eq]
    obtain rfl :=
      List.inj_on_of_nodup_map hsorted.nodup (hscope hfirst.1) (hscope hsecond.1) howners
    exact hne (eq_of_feeds hslot hslot' hfeeds hfeeds')
  · rw [hfeeds.source_eq, owner_of_mem_slots hslot] at hsource'
    exact hfirst.not_mem_steps hsecond.1 hslot' hsource'
  · rw [hfeeds'.source_eq, owner_of_mem_slots hslot'] at hsource
    exact hsecond.not_mem_steps hfirst.1 hslot hsource
  · have hbefore := hsorted.forward edge he (mem_ordered_of_mem_steps hsource) hordered
    exact ih edge.source hbefore hsource hsource'

theorem path_unique (hscope : scope ⊆ c.ordered) (h : Stands c scope path node)
    (h' : Stands c scope path' node) : path = path' := by
  induction h generalizing path' with
  | here hfree =>
    cases h' with
    | here _ => rfl
    | inside hconstruct hslot h' =>
      exact absurd (mem_within.mp h'.mem).2 (hfree.not_mem_steps hconstruct.1 hslot)
  | @inside scope construct slot path node hconstruct hslot h ih =>
    have hid := (mem_within.mp h.mem).2
    cases h' with
    | here hfree => exact absurd hid (hfree.not_mem_steps hconstruct.1 hslot)
    | @inside _ construct' slot' path' _ hconstruct' hslot' h' =>
      have hid' := (mem_within.mp h'.mem).2
      by_cases heq : slot = slot'
      · subst heq
        rw [ih (fun other ho => hscope (mem_within.mp ho).1) h']
      · exact absurd hid' (not_mem_steps_of_ne hexclusive hsorted hscope hconstruct hconstruct'
          hslot hslot' heq hid)

theorem not_behind {edge : Edge} (he : edge ∈ c.edges) (hscope : scope ⊆ c.ordered)
    (hfirst : Stands c scope path first) (hsource : first.id = edge.source)
    (hsecond : Stands c scope path' second) (htarget : second.id = edge.target) :
    ¬ Behind c (path, first) path' := by
  induction hsecond generalizing path with
  | here _ =>
    intro hbehind
    cases hbehind
  | @inside scope construct slot path' second hconstruct hslot hsecond ih =>
    have hleads := hexclusive construct (hscope hconstruct.1) slot hslot edge he
      (htarget ▸ (mem_within.mp hsecond.mem).2)
    have howner := owner_of_mem_slots hslot
    intro hbehind
    cases hbehind with
    | step hbefore =>
      cases hfirst with
      | here hfree =>
        rcases hleads with hfeeds | hmem
        · rw [hsource, hfeeds.source_eq] at hbefore
          exact Before.irrefl hsorted.nodup hbefore
        · exact hfree.not_mem_steps hconstruct.1 hslot (hsource ▸ hmem)
    | slot hbefore =>
      cases hfirst with
      | inside hconstruct' hslot' hfirst =>
        have hid := (mem_within.mp hfirst.mem).2
        rcases hleads with hfeeds | hmem
        · rw [hsource, hfeeds.source_eq, howner] at hid
          exact hconstruct.not_mem_steps hconstruct'.1 hslot' hid
        · rw [← hsource] at hmem
          refine not_mem_steps_of_ne hexclusive hsorted hscope hconstruct hconstruct' hslot
            hslot' ?_ hmem hid
          rintro rfl
          exact Before.irrefl hsorted.nodup_allSlots hbefore
    | deeper hbehind =>
      cases hfirst with
      | inside _ _ hfirst =>
        exact ih (fun other ho => hscope (mem_within.mp ho).1) hfirst htarget hbehind

end Exclusive

end Flowplan.Compile
