import Flowplan.Plan.Compile
import Flowplan.Proofs.Graph.Scope

/-!
# Places

Where a step stands in a plan is said by the bodies around it, the outermost
first. A construct claims the steps of its bodies, and in a scope only the steps
that no construct of the scope claims stand free.
-/

namespace Flowplan.Compile

/-- A body of a construct: the branch of a condition that an
expression selects, or the body of a loop. -/
inductive Slot
  | branch (owner expr : String)
  | loop (owner : String)
deriving DecidableEq

def Slot.owner : Slot → String
  | .branch owner _ => owner
  | .loop owner => owner

def Slot.steps (c : Context) : Slot → List String
  | .branch owner expr => Scope.branch c.edges c.ordered owner expr
  | .loop owner => Scope.loop c.edges c.ordered owner

def Slot.Feeds : Slot → Edge → Prop
  | .branch owner expr, edge => edge.source = owner ∧ edge.branch? = some expr
  | .loop owner, edge => edge.source = owner

def slots (c : Context) (node : Node) : List Slot :=
  if node.kind == StepType.forEach then [.loop node.id]
  else if node.kind == StepType.condition then (Scope.expressions c.edges node.id).map
    (.branch node.id)
  else []

def Claims (c : Context) (construct node : Node) : Prop :=
  ∃ slot ∈ slots c construct, node.id ∈ slot.steps c

instance (c : Context) (construct node : Node) : Decidable (Claims c construct node) :=
  inferInstanceAs (Decidable (∃ slot ∈ slots c construct, node.id ∈ slot.steps c))

def Free (c : Context) (scope : List Node) (node : Node) : Prop :=
  node ∈ scope ∧ ∀ construct ∈ scope, ¬ Claims c construct node

/-- A step stands in a scope behind a path of bodies: each construct of the path and the step
itself are free in what the bodies before them leave of the scope. -/
inductive Stands (c : Context) : List Node → List Slot → Node → Prop
  | here {scope node} : Free c scope node → Stands c scope [] node
  | inside {scope construct slot path node} : Free c scope construct → slot ∈ slots c construct →
      Stands c (within scope (slot.steps c)) path node → Stands c scope (slot :: path) node

variable {c : Context} {scope : List Node} {construct node : Node} {slot : Slot} {path : List Slot}

theorem slots_forEach (h : node.kind = StepType.forEach) : slots c node = [.loop node.id] := by
  simp [slots, h]

theorem slots_condition (h : node.kind = StepType.condition) :
    slots c node = (Scope.expressions c.edges node.id).map (.branch node.id) := by
  simp [slots, h, StepType.condition, StepType.forEach]

theorem slots_step (hcondition : node.kind ≠ StepType.condition)
    (hloop : node.kind ≠ StepType.forEach) : slots c node = [] := by
  simp [slots, hcondition, hloop]

theorem kind_of_mem_slots (h : slot ∈ slots c construct) :
    construct.kind = StepType.condition ∨ construct.kind = StepType.forEach := by
  by_contra hkind
  obtain ⟨hcondition, hloop⟩ := not_or.mp hkind
  simp [slots_step hcondition hloop] at h

theorem owner_of_mem_slots (h : slot ∈ slots c node) : slot.owner = node.id := by
  rw [slots] at h
  split at h
  · simp_all [Slot.owner]
  · split at h
    · obtain ⟨expr, _, rfl⟩ := List.mem_map.mp h
      rfl
    · simp at h

theorem claimed_eq_flatMap (c : Context) (node : Node) :
    claimed c node = (slots c node).flatMap (Slot.steps c) := by
  rw [claimed, slots]
  split
  · simp [Slot.steps]
  · split
    · simp [List.flatMap_map, Slot.steps]
    · rfl

theorem mem_unclaimed : node ∈ unclaimed c scope ↔ Free c scope node := by
  simp [unclaimed, Free, Claims, claimed_eq_flatMap]

theorem mem_within {ids : List String} :
    node ∈ within scope ids ↔ node ∈ scope ∧ node.id ∈ ids := by
  simp [within]

theorem within_sublist (scope : List Node) (ids : List String) : (within scope ids).Sublist scope :=
  List.filter_sublist

theorem Slot.Feeds.source_eq {edge : Edge} (h : slot.Feeds edge) : edge.source = slot.owner := by
  cases slot with
  | branch owner expr => exact h.1
  | loop owner => exact h

theorem exists_edge_of_mem_steps {id : String} (h : id ∈ slot.steps c) :
    ∃ edge ∈ c.edges, edge.target = id ∧ (slot.Feeds edge ∨ edge.source ∈ slot.steps c) := by
  cases slot with
  | branch owner expr => exact Scope.exists_edge_of_mem_branch h
  | loop owner => exact Scope.exists_edge_of_mem_loop h

theorem notMem_afterBranches_of_mem_steps (hkind : construct.kind = StepType.condition)
    (hslot : slot ∈ slots c construct) {id : String} (hid : id ∈ slot.steps c) :
    id ∉ Scope.afterBranches c.edges construct.id := by
  rw [slots_condition hkind] at hslot
  obtain ⟨expr, _, rfl⟩ := List.mem_map.mp hslot
  exact Scope.notMem_afterBranches_of_mem_branch hid

theorem mem_ordered_of_mem_steps {id : String} (h : id ∈ slot.steps c) :
    id ∈ c.ordered.map Node.id := by
  cases slot with
  | branch owner expr => exact Scope.mem_of_mem_collect h
  | loop owner => exact Scope.mem_of_mem_collect h

theorem owner_notMem_steps (c : Context) (slot : Slot) : slot.owner ∉ slot.steps c := by
  cases slot with
  | branch owner expr => exact Scope.not_mem_branch expr
  | loop owner => exact Scope.not_mem_loop

theorem length_within_lt (hconstruct : construct ∈ scope) (hslot : slot ∈ slots c construct) :
    (within scope (slot.steps c)).length < scope.length := by
  apply List.length_filter_lt_length_iff_exists.mpr
  exact ⟨construct,
    hconstruct, by simpa [← owner_of_mem_slots hslot] using owner_notMem_steps c slot⟩

theorem Stands.mem (h : Stands c scope path node) : node ∈ scope := by
  induction h with
  | here hfree => exact hfree.1
  | inside _ _ _ ih => exact (mem_within.mp ih).1

theorem nodup_slots (c : Context) (node : Node) : (slots c node).Nodup := by
  rw [slots]
  split
  · simp
  · split
    · exact (Scope.nodup_expressions c.edges node.id).map fun _ _ h => by simpa using h
    · simp

def allSlots (c : Context) : List Slot := c.ordered.flatMap (slots c)

structure Sorted (c : Context) : Prop where
  nodup : (c.ordered.map Node.id).Nodup
  forward : Scope.Forward c.edges (c.ordered.map Node.id)

namespace Sorted

theorem nodup_allSlots (h : Sorted c) : (allSlots c).Nodup := by
  rw [allSlots, List.nodup_flatMap]
  refine ⟨fun node _ => nodup_slots c node, ?_⟩
  refine (List.pairwise_map.mp h.nodup).imp ?_
  intro first second hne slot hfirst hsecond
  exact hne ((owner_of_mem_slots hfirst).symm.trans (owner_of_mem_slots hsecond))

theorem before_of_mem_steps (h : Sorted c) {id : String}
    (howner : slot.owner ∈ c.ordered.map Node.id) (hid : id ∈ slot.steps c) :
    Before (c.ordered.map Node.id) slot.owner id := by
  refine before_induction (P := fun id => id ∈ slot.steps c →
    Before (c.ordered.map Node.id) slot.owner id) h.nodup ?_ id (mem_ordered_of_mem_steps hid) hid
  intro id hmem ih hid
  obtain ⟨edge, he, rfl, hfeeds | hsource⟩ := exists_edge_of_mem_steps hid
  · exact hfeeds.source_eq ▸ h.forward edge he (hfeeds.source_eq ▸ howner) hmem
  · have hbefore := h.forward edge he (mem_ordered_of_mem_steps hsource) hmem
    exact (ih edge.source hbefore hsource).trans h.nodup hbefore

theorem mem_steps_of_fed (h : Sorted c) {id : String} (howner : slot.owner ∈ c.ordered.map Node.id)
    (hid : id ∈ c.ordered.map Node.id) (hentered : ∃ edge ∈ c.edges, edge.target = id)
    (hfed : ∀ edge ∈ c.edges, edge.target = id → edge.source ∈ slot.steps c) :
    id ∈ slot.steps c := by
  have hforward : ∀ edge ∈ c.edges, edge.target = id → edge.source ∈ c.ordered.map Node.id →
      Before (c.ordered.map Node.id) edge.source id := by
    rintro edge he rfl hsource
    exact h.forward edge he hsource hid
  have hne : id ≠ slot.owner := by
    rintro rfl
    obtain ⟨entry, hentry, htarget⟩ := hentered
    have hsource := hfed entry hentry htarget
    have hbefore := hforward entry hentry htarget (mem_ordered_of_mem_steps hsource)
    exact hbefore.asymm h.nodup (h.before_of_mem_steps howner hsource)
  have hinside : ∀ edge ∈ c.edges, edge.target = id → edge.source ≠ slot.owner := by
    intro edge he htarget hsource
    exact owner_notMem_steps c slot (hsource ▸ hfed edge he htarget)
  cases slot with
  | branch owner expr =>
    refine Scope.mem_collect_of_fed h.nodup hid hforward hfed fun members hmembers => ?_
    have hafter : id ∉ Scope.afterBranches c.edges owner := by
      intro hmem
      obtain ⟨edge, hedge, htarget⟩ := List.mem_map.mp hmem
      obtain ⟨he, hstart⟩ := List.mem_filter.mp hedge
      exact hinside edge he htarget (eq_of_beq (Bool.and_eq_true _ _ ▸ hstart).1)
    have hfedFrom : Scope.fedFrom c.edges members.contains id = true :=
      Scope.fedFrom_of_forall hentered fun edge he htarget => by
        simpa using hmembers edge he htarget
    have hne : id ≠ owner := hne
    simp [hne, hafter, hfedFrom]
  | loop owner =>
    refine Scope.mem_collect_of_fed h.nodup hid hforward hfed fun members hmembers => ?_
    have hfedFrom : Scope.fedFrom c.edges
        (fun source => source == owner || members.contains source) id = true :=
      Scope.fedFrom_of_forall hentered fun edge he htarget => by simp [hmembers edge he htarget]
    rw [hfedFrom, Bool.or_true, Bool.and_true]
    exact bne_iff_ne.mpr hne

end Sorted

abbrev Spot := List Slot × Node

/-- One spot of a scope comes before another: a step before what follows it in the order and before
its own bodies, and a body before what follows its construct and before the later bodies of it. -/
inductive Earlier (c : Context) : Spot → Spot → Prop
  | steps {a b} : Before (c.ordered.map Node.id) a.id b.id → Earlier c ([], a) ([], b)
  | stepSlot {a slot path b} : Before (c.ordered.map Node.id) a.id slot.owner →
      Earlier c ([], a) (slot :: path, b)
  | construct {a slot path b} : a.id = slot.owner → Earlier c ([], a) (slot :: path, b)
  | slotStep {slot path a b} : Before (c.ordered.map Node.id) slot.owner b.id →
      Earlier c (slot :: path, a) ([], b)
  | slots {first path a second path' b} : Before (allSlots c) first second →
      Earlier c (first :: path, a) (second :: path', b)
  | deeper {slot path a path' b} : Earlier c (path, a) (path', b) →
      Earlier c (slot :: path, a) (slot :: path', b)

/-- A spot comes after a whole body of a path. -/
inductive Behind (c : Context) : Spot → List Slot → Prop
  | step {slot path a} : Before (c.ordered.map Node.id) slot.owner a.id →
      Behind c ([], a) (slot :: path)
  | slot {first path second path' a} : Before (allSlots c) first second →
      Behind c (second :: path', a) (first :: path)
  | deeper {slot path path' a} : Behind c (path', a) path →
      Behind c (slot :: path', a) (slot :: path)

theorem Earlier.asymm {first second : Spot} (hsorted : Sorted c) (h : Earlier c first second) :
    ¬ Earlier c second first := by
  have hnodup := hsorted.nodup
  intro hback
  induction h with
  | steps h =>
    cases hback with
    | steps hback => exact h.asymm hnodup hback
  | stepSlot h =>
    cases hback with
    | slotStep hback => exact h.asymm hnodup hback
  | construct hid =>
    cases hback with
    | slotStep hback => exact Before.irrefl hnodup (hid ▸ hback)
  | slotStep h =>
    cases hback with
    | stepSlot hback => exact h.asymm hnodup hback
    | construct hid => exact Before.irrefl hnodup (hid ▸ h)
  | slots h =>
    cases hback with
    | slots hback => exact h.asymm hsorted.nodup_allSlots hback
    | deeper _ => exact Before.irrefl hsorted.nodup_allSlots h
  | deeper _ ih =>
    cases hback with
    | slots hback => exact Before.irrefl hsorted.nodup_allSlots hback
    | deeper hback => exact ih hback

theorem Earlier.of_behind {a b : Node} {path path' : List Slot} (h : Behind c (path', a) path) :
    Earlier c (path, b) (path', a) := by
  generalize hspot : (path', a) = spot at h
  induction h generalizing path' with
  | step hbefore => obtain ⟨rfl, rfl⟩ := Prod.mk.inj hspot; exact .slotStep hbefore
  | slot hbefore => obtain ⟨rfl, rfl⟩ := Prod.mk.inj hspot; exact .slots hbefore
  | deeper _ ih => obtain ⟨rfl, rfl⟩ := Prod.mk.inj hspot; exact .deeper (ih rfl)

theorem owner_mem_of_free {whole : List Node} (hscope : scope ⊆ whole)
    (hfree : Free c scope construct) (hslot : slot ∈ slots c construct) :
    slot.owner ∈ whole.map Node.id :=
  owner_of_mem_slots hslot ▸ List.mem_map_of_mem (hscope hfree.1)

theorem mem_allSlots (hscope : scope ⊆ c.ordered) (hfree : Free c scope construct)
    (hslot : slot ∈ slots c construct) : slot ∈ allSlots c :=
  List.mem_flatMap.mpr ⟨construct, hscope hfree.1, hslot⟩

theorem earlier_or_behind {a b : Node} {path path' : List Slot} (hsorted : Sorted c)
    (hscope : scope ⊆ c.ordered) (hbefore : Before (c.ordered.map Node.id) a.id b.id)
    (ha : Stands c scope path a) (hb : Stands c scope path' b) :
    Earlier c (path, a) (path', b) ∨ Behind c (path, a) path' := by
  -- both paths are followed up to the first body that they do not share
  induction ha generalizing path' with
  | @here scope a hfree =>
    cases hb with
    | here _ => exact .inl (.steps hbefore)
    | @inside _ construct slot _ _ hconstruct hslot hb =>
      have howner := owner_mem_of_free hscope hconstruct hslot
      by_cases hid : a.id = slot.owner
      · exact .inl (.construct hid)
      · rcases Before.connected (List.mem_map_of_mem (hscope hfree.1)) howner hid with h | h
        · exact .inl (.stepSlot h)
        · exact .inr (.step h)
  | @inside scope construct slot path a hconstruct hslot ha ih =>
    have howner := owner_mem_of_free hscope hconstruct hslot
    cases hb with
    | here _ =>
      have hbody := hsorted.before_of_mem_steps howner (mem_within.mp ha.mem).2
      exact .inl (.slotStep (hbody.trans hsorted.nodup hbefore))
    | @inside _ construct' slot' path' _ hconstruct' hslot' hb =>
      by_cases heq : slot = slot'
      · subst heq
        rcases ih (fun node hnode => hscope (mem_within.mp hnode).1) hbefore hb with h | h
        · exact .inl (.deeper h)
        · exact .inr (.deeper h)
      · have hmem := mem_allSlots hscope hconstruct hslot
        have hmem' := mem_allSlots hscope hconstruct' hslot'
        rcases Before.connected hmem hmem' heq with h | h
        · exact .inl (.slots h)
        · exact .inr (.slot h)

theorem earlier_iff_not_behind {a b : Node} {path path' : List Slot} (hsorted : Sorted c)
    (hscope : scope ⊆ c.ordered) (hbefore : Before (c.ordered.map Node.id) a.id b.id)
    (ha : Stands c scope path a) (hb : Stands c scope path' b) :
    Earlier c (path, a) (path', b) ↔ ¬ Behind c (path, a) path' := by
  constructor
  · exact fun h hbehind => h.asymm hsorted (.of_behind hbehind)
  · exact (earlier_or_behind hsorted hscope hbefore ha hb).resolve_right

end Flowplan.Compile
