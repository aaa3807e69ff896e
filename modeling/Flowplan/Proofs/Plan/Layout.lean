import Flowplan.Proofs.Plan.Place

namespace Flowplan.Compile

variable {c : Context} {scope : List Node} {node : Node} {path : List Slot} {depth : Nat}

def enclose (slot : Slot) (spot : Spot) : Spot := (slot :: spot.1, spot.2)

def layout (c : Context) : Nat → List Node → List Spot
  | 0, _ => []
  | depth + 1, scope => (unclaimed c scope).flatMap fun node =>
      ([], node) :: (slots c node).flatMap fun slot =>
        (layout c depth (within scope (slot.steps c))).map (enclose slot)

theorem mem_layout_succ {spot : Spot} : spot ∈ layout c (depth + 1) scope ↔
    ∃ node, Free c scope node ∧ (spot = ([], node) ∨
      ∃ slot ∈ slots c node, ∃ inner ∈ layout c depth (within scope (slot.steps c)),
        enclose slot inner = spot) := by
  simp only [layout, List.mem_flatMap, List.mem_cons, List.mem_map, mem_unclaimed]

theorem mem_layout_iff (hdepth : scope.length ≤ depth) :
    (path, node) ∈ layout c depth scope ↔ Stands c scope path node := by
  induction depth generalizing scope path with
  | zero =>
    obtain rfl : scope = [] := List.length_eq_zero_iff.mp (by omega)
    simp only [layout, List.not_mem_nil, false_iff]
    intro h
    exact absurd h.mem (by simp)
  | succ depth ih =>
    have hbody : ∀ construct, Free c scope construct → ∀ slot ∈ slots c construct,
        (within scope (slot.steps c)).length ≤ depth := by
      intro construct hfree slot hslot
      have := length_within_lt hfree.1 hslot
      omega
    rw [mem_layout_succ]
    constructor
    · rintro ⟨construct, hfree, h | ⟨slot, hslot, ⟨inner, _⟩, hinner, h⟩⟩
      · obtain ⟨rfl, rfl⟩ := Prod.mk.inj h
        exact .here hfree
      · obtain ⟨rfl, rfl⟩ := Prod.mk.inj h
        exact .inside hfree hslot ((ih (hbody construct hfree slot hslot)).mp hinner)
    · intro h
      cases h with
      | here hfree => exact ⟨node, hfree, .inl rfl⟩
      | @inside _ construct slot path _ hfree hslot h =>
        have hinner := (ih (hbody construct hfree slot hslot)).mpr h
        exact ⟨construct, hfree, .inr ⟨slot, hslot, (path, node), hinner, rfl⟩⟩

theorem earlier_of_before {first second : Node} (hbefore : Before c.ordered first second)
    {x y : Spot} (hx : x = ([], first) ∨ ∃ slot ∈ slots c first, ∃ inner, enclose slot inner = x)
    (hy : y = ([], second) ∨ ∃ slot ∈ slots c second, ∃ inner, enclose slot inner = y) :
    Earlier c x y := by
  have hids := hbefore.map Node.id
  rcases hx with rfl | ⟨slot, hslot, inner, rfl⟩ <;>
    rcases hy with rfl | ⟨slot', hslot', inner', rfl⟩
  · exact .steps hids
  · exact .stepSlot (owner_of_mem_slots hslot' ▸ hids)
  · exact .slotStep (owner_of_mem_slots hslot ▸ hids)
  · exact .slots (hbefore.flatMap hslot hslot')

theorem pairwise_layout (hscope : scope.Sublist c.ordered) :
    (layout c depth scope).Pairwise (Earlier c) := by
  induction depth generalizing scope with
  | zero => simp [layout]
  | succ depth ih =>
    have hunclaimed : (unclaimed c scope).Sublist c.ordered := List.filter_sublist.trans hscope
    rw [layout, List.pairwise_flatMap]
    constructor
    · intro node hnode
      have hslots : (slots c node).Sublist (allSlots c) :=
        List.sublist_flatten_of_mem (List.mem_map_of_mem (hunclaimed.subset hnode))
      rw [List.pairwise_cons, List.pairwise_flatMap]
      refine ⟨?_, ?_, ?_⟩
      · intro spot hspot
        obtain ⟨slot, hslot, hspot⟩ := List.mem_flatMap.mp hspot
        obtain ⟨inner, _, rfl⟩ := List.mem_map.mp hspot
        exact .construct (owner_of_mem_slots hslot).symm
      · intro slot _
        rw [List.pairwise_map]
        exact (ih ((within_sublist scope _).trans hscope)).imp .deeper
      · refine (pairwise_before hslots).imp ?_
        intro slot slot' hbefore x hx y hy
        obtain ⟨inner, _, rfl⟩ := List.mem_map.mp hx
        obtain ⟨inner', _, rfl⟩ := List.mem_map.mp hy
        exact .slots hbefore
    · refine (pairwise_before hunclaimed).imp ?_
      intro first second hbefore x hx y hy
      apply earlier_of_before hbefore <;> grind

end Flowplan.Compile
