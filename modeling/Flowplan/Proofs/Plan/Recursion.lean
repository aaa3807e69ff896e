import Flowplan.Proofs.Plan.Modules
import Mathlib.Data.Finset.Card
import Mathlib.Data.Finset.Dedup

/-!
# Recursion into bodies

The modules of a scope are made of those of the bodies in it. A construct is in no body of its own,
so a body is a smaller scope, whatever the graph looks like, and the recursion ends.
-/

namespace Flowplan.Compile

/-- A body is compiled on the way to the modules of a scope. -/
inductive Enters (c : Context) (scope : List Node) : List Node → Prop
  | body {construct slot} : Free c scope construct → slot ∈ slots c construct →
      Enters c scope (within scope (slot.steps c))

variable {c : Context} {scope body : List Node} {construct node : Node} {slot : Slot} {depth : Nat}
  {build build' : List Node → Except CompileError (List Module)}

def moduleBy (c : Context) (build : List Node → Except CompileError (List Module))
    (scope : List Node) (node : Node) : Except CompileError (Option Module) := do
  if node.kind == StepType.condition then
    let cases ← (Scope.expressions c.edges node.id).mapM fun expr => do
      let body ← build (within scope ((Slot.branch node.id expr).steps c))
      return Case.mk (Expression.normalize expr c.ids) body
    return some (.mk (ModuleId.ofId node.id) (.branch cases) { summary := some "Branch" })
  else if node.kind == StepType.forEach then
    let body ← build (within scope ((Slot.loop node.id).steps c))
    return some (.mk (ModuleId.ofId node.id)
      (.loop (iterator c.ids node) body (flag node "parallel") (flag node "skipFailures"))
      { summary := some "For each" })
  else stepModule c.registry c.ids node

/-- The modules of a scope, given the modules of bodies: one turn of
the recursion, without a bound on its depth. -/
def layer (c : Context) (build : List Node → Except CompileError (List Module))
    (scope : List Node) : Except CompileError (List Module) := do
  let found ← (unclaimed c scope).mapM (moduleBy c build scope)
  return found.filterMap fun m => m

theorem modules_succ_eq_layer : modules c (depth + 1) scope = layer c (modules c depth) scope :=
  rfl

theorem moduleBy_congr (h : ∀ slot ∈ slots c node, build (within scope (slot.steps c)) =
    build' (within scope (slot.steps c))) :
    moduleBy c build scope node = moduleBy c build' scope node := by
  by_cases hcondition : node.kind = StepType.condition
  · rw [slots_condition hcondition] at h
    have hcases : ∀ expr ∈ Scope.expressions c.edges node.id,
        build (within scope ((Slot.branch node.id expr).steps c)) =
          build' (within scope ((Slot.branch node.id expr).steps c)) :=
      fun expr hexpr => h _ (List.mem_map_of_mem hexpr)
    simp only [moduleBy, hcondition, beq_self_eq_true, if_true]
    rw [mapM_congr fun expr hexpr => by rw [hcases expr hexpr]]
  · by_cases hloop : node.kind = StepType.forEach
    · have hbody := h (.loop node.id) (by simp [slots_forEach hloop])
      have hkind : (StepType.forEach == StepType.condition) = false := by decide
      simp only [moduleBy, hloop, hkind, hbody, Bool.false_eq_true, if_false]
    · simp [moduleBy, hcondition, hloop]

theorem layer_congr (h : ∀ body, Enters c scope body → build body = build' body) :
    layer c build scope = layer c build' scope := by
  have hmodules : ∀ node ∈ unclaimed c scope, moduleBy c build scope node =
      moduleBy c build' scope node := by
    intro node hnode
    exact moduleBy_congr fun slot hslot => h _ (.body (mem_unclaimed.mp hnode) hslot)
  rw [layer, layer, mapM_congr hmodules]

def idsWhere (p : Node → Bool) (nodes : List Node) : Finset String :=
  ((nodes.filter p).map Node.id).toFinset

theorem mem_idsWhere {p : Node → Bool} {nodes : List Node} {id : String} :
    id ∈ idsWhere p nodes ↔ ∃ node ∈ nodes, p node = true ∧ node.id = id := by
  simp [idsWhere, and_assoc]

theorem idsWhere_mono {p : Node → Bool} {nodes nodes' : List Node} (h : nodes ⊆ nodes') :
    idsWhere p nodes ⊆ idsWhere p nodes' := by
  intro id hid
  obtain ⟨node, hnode, hkind, rfl⟩ := mem_idsWhere.mp hid
  exact mem_idsWhere.mpr ⟨node, h hnode, hkind, rfl⟩

theorem Enters.length_lt (h : Enters c scope body) : body.length < scope.length := by
  obtain ⟨hfree, hslot⟩ := h
  exact length_within_lt hfree.1 hslot

theorem idsWhere_within_ssubset {p : Node → Bool} (hconstruct : construct ∈ scope)
    (hkind : p construct = true) (hslot : slot ∈ slots c construct) :
    idsWhere p (within scope (slot.steps c)) ⊂ idsWhere p scope := by
  refine Finset.ssubset_iff_subset_ne.mpr ⟨idsWhere_mono (within_sublist _ _).subset, fun heq => ?_⟩
  have howner : construct.id ∈ idsWhere p scope :=
    mem_idsWhere.mpr ⟨construct, hconstruct, hkind, rfl⟩
  obtain ⟨inner, hinner, _, hid⟩ := mem_idsWhere.mp (heq ▸ howner)
  refine owner_notMem_steps c slot ?_
  rw [owner_of_mem_slots hslot, ← hid]
  exact (mem_within.mp hinner).2

theorem Enters.ids_ssubset (h : Enters c scope body) :
    (body.map Node.id).toFinset ⊂ (scope.map Node.id).toFinset := by
  obtain ⟨hfree, hslot⟩ := h
  simpa [idsWhere] using idsWhere_within_ssubset (p := fun _ => true) hfree.1 rfl hslot

theorem wellFounded_enters (c : Context) : WellFounded fun body scope => Enters c scope body :=
  Subrelation.wf Enters.length_lt (measure List.length).wf

theorem modules_eq_of_length_le {depth' : Nat} (hdepth : scope.length ≤ depth)
    (hdepth' : scope.length ≤ depth') : modules c depth scope = modules c depth' scope := by
  have hempty : ∀ depth, modules c depth [] = .ok [] := by
    intro depth
    cases depth <;> rfl
  induction depth generalizing scope depth' with
  | zero =>
    obtain rfl : scope = [] := List.length_eq_zero_iff.mp (by omega)
    rw [hempty, hempty]
  | succ depth ih =>
    cases depth' with
    | zero =>
      obtain rfl : scope = [] := List.length_eq_zero_iff.mp (by omega)
      rw [hempty, hempty]
    | succ depth' =>
      -- both enter the same bodies, each with a turn less and at least one step less
      rw [modules_succ_eq_layer, modules_succ_eq_layer]
      refine layer_congr fun body hbody => ?_
      have := hbody.length_lt
      exact ih (by omega) (by omega)

def Recurs (c : Context) (build : List Node → Except CompileError (List Module)) : Prop :=
  ∀ scope, build scope = layer c build scope

theorem recurs_modules (c : Context) : Recurs c fun scope => modules c scope.length scope := by
  intro scope
  calc modules c scope.length scope
      = modules c (scope.length + 1) scope :=
        modules_eq_of_length_le (Nat.le_refl _) (Nat.le_succ _)
    _ = layer c (modules c scope.length) scope := modules_succ_eq_layer
    _ = layer c (fun body => modules c body.length body) scope :=
      layer_congr fun body hbody => modules_eq_of_length_le hbody.length_lt.le (Nat.le_refl _)

/-- The recursion has one solution, by induction along the bodies that it enters. -/
theorem Recurs.unique (h : Recurs c build) (h' : Recurs c build') : build = build' := by
  funext scope
  induction scope using (wellFounded_enters c).induction with
  | _ scope ih => rw [h scope, h' scope, layer_congr ih]

theorem Recurs.eq_modules (h : Recurs c build) (hdepth : scope.length ≤ depth) :
    modules c depth scope = build scope := by
  rw [h.unique (recurs_modules c)]
  exact modules_eq_of_length_le hdepth (Nat.le_refl _)

end Flowplan.Compile
