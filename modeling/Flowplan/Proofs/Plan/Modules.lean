import Flowplan.Proofs.Fallible
import Flowplan.Proofs.Plan.Layout

namespace Flowplan

namespace Module

def bodies : Module → List (List Module)
  | .mk _ (.branch cases) _ => cases.map Case.body
  | .mk _ (.loop _ body _ _) _ => [body]
  | .mk _ (.script _ _) _ => []
  | .mk _ (.pause _) _ => []

end Module

namespace Plan

@[simp] theorem preorder_append (first second : List Module) :
    preorder (first ++ second) = preorder first ++ preorder second := by
  induction first with
  | nil => simp [preorder]
  | cons m rest ih => simp [preorder, ih]

theorem preorderCases_eq_flatMap (cases : List Case) :
    preorderCases cases = cases.flatMap fun case => preorder case.body := by
  induction cases with
  | nil => rfl
  | cons case rest ih =>
    obtain ⟨expr, body⟩ := case
    simp [preorderCases, preorderCase, Case.body, ih]

theorem preorderOf_eq_flatMap (m : Module) : preorderOf m = m.bodies.flatMap preorder := by
  obtain ⟨id, body, directives⟩ := m
  cases body with
  | script path params => rfl
  | pause seconds => rfl
  | branch cases =>
    simp [preorderOf, preorderBody, preorderCases_eq_flatMap, Module.bodies, List.flatMap_map]
  | loop iterator body parallel skipFailures => simp [preorderOf, preorderBody, Module.bodies]

theorem preorder_filterMap (found : List (Option Module)) :
    preorder (found.filterMap fun m => m) = found.flatMap fun m => preorder m.toList := by
  induction found with
  | nil => rfl
  | cons m rest ih =>
    cases m with
    | none => simpa [preorder] using ih
    | some m => simp [preorder, ih]

end Plan

namespace Compile

variable {c : Context} {depth : Nat} {scope : List Node} {node : Node} {m : Option Module}

def moduleOf (c : Context) (depth : Nat) (scope : List Node) (node : Node) :
    Except CompileError (Option Module) := do
  if node.kind == StepType.condition then
    let cases ← (Scope.expressions c.edges node.id).mapM fun expr => do
      let body ← modules c depth (within scope ((Slot.branch node.id expr).steps c))
      return Case.mk (Expression.normalize expr c.ids) body
    return some (.mk (ModuleId.ofId node.id) (.branch cases) { summary := some "Branch" })
  else if node.kind == StepType.forEach then
    let body ← modules c depth (within scope ((Slot.loop node.id).steps c))
    return some (.mk (ModuleId.ofId node.id)
      (.loop (iterator c.ids node) body (flag node "parallel") (flag node "skipFailures"))
      { summary := some "For each" })
  else stepModule c.registry c.ids node

theorem modules_succ :
    modules c (depth + 1) scope = (unclaimed c scope).mapM (moduleOf c depth scope) >>=
    fun found => pure (found.filterMap fun m => m) :=
  rfl

theorem modules_succ_eq_ok {ms : List Module} : modules c (depth + 1) scope = .ok ms ↔
    ∃ found, List.Forall₂ (fun node m => moduleOf c depth scope node = .ok m)
      (unclaimed c scope) found ∧ (found.filterMap fun m => m) = ms := by
  simp only [modules_succ, bind_eq_ok_iff, pure_eq_ok_iff, mapM_eq_ok_iff]

def hasModule (registry : Registry) (node : Node) : Bool :=
  node.kind == StepType.condition || node.kind == StepType.forEach || node.kind == StepType.wait ||
    (registry.scriptPath node.kind).isSome

theorem stepModule_eq_ok {registry : Registry} {ids : List String}
    (h : stepModule registry ids node = .ok m) : (node.kind = StepType.wait ∧ ∃ seconds directives,
      m = some (.mk (ModuleId.ofId node.id) (.pause seconds) directives)) ∨
    (node.kind ≠ StepType.wait ∧ ∃ path directives, registry.scriptPath node.kind = some path ∧
      m = some (.mk (ModuleId.ofId node.id) (.script path (scriptParams node)) directives)) ∨
    (node.kind ≠ StepType.wait ∧ registry.scriptPath node.kind = none ∧
      registry.isNative node.kind ∧
      m = none) := by
  rw [stepModule] at h
  split at h
  · next hwait =>
    exact .inl ⟨by simpa using hwait, _, _, (Except.ok.inj h).symm⟩
  · next hwait =>
    have hwait : node.kind ≠ StepType.wait := by simpa using hwait
    split at h
    · next path hpath =>
      simp only [bind_eq_ok_iff, pure_eq_ok_iff] at h
      obtain ⟨count, _, rfl⟩ := h
      exact .inr (.inl ⟨hwait, path, _, hpath, rfl⟩)
    · next hpath =>
      split at h
      · next hnative => exact .inr (.inr ⟨hwait, hpath, hnative, (Except.ok.inj h).symm⟩)
      · cases h

theorem moduleOf_condition (hkind : node.kind = StepType.condition)
    (h : moduleOf c depth scope node = .ok m) :
    ∃ cases directives, m = some (.mk (ModuleId.ofId node.id) (.branch cases) directives) ∧
      List.Forall₂ (fun expr case => case.expr = Expression.normalize expr c.ids ∧
        modules c depth (within scope ((Slot.branch node.id expr).steps c)) = .ok case.body)
      (Scope.expressions c.edges node.id) cases := by
  simp only [moduleOf, hkind, beq_self_eq_true, if_true, bind_eq_ok_iff, pure_eq_ok_iff,
    mapM_eq_ok_iff] at h
  obtain ⟨cases, hcases, rfl⟩ := h
  refine ⟨cases, _, rfl, hcases.imp ?_⟩
  rintro expr _ ⟨body, hbody, rfl⟩
  exact ⟨rfl, hbody⟩

theorem moduleOf_forEach (hkind : node.kind = StepType.forEach)
    (h : moduleOf c depth scope node = .ok m) :
    ∃ body directives, m = some (.mk (ModuleId.ofId node.id)
        (.loop (iterator c.ids node) body (flag node "parallel") (flag node "skipFailures"))
          directives) ∧
      modules c depth (within scope ((Slot.loop node.id).steps c)) = .ok body := by
  have hcondition : (StepType.forEach == StepType.condition) = false := by decide
  simp only [moduleOf, hkind, hcondition, beq_self_eq_true, Bool.false_eq_true, if_true, if_false,
    bind_eq_ok_iff, pure_eq_ok_iff] at h
  obtain ⟨body, hbody, rfl⟩ := h
  exact ⟨body, _, rfl, hbody⟩

theorem moduleOf_step (hcondition : node.kind ≠ StepType.condition)
    (hloop : node.kind ≠ StepType.forEach) :
    moduleOf c depth scope node = stepModule c.registry c.ids node := by
  simp [moduleOf, hcondition, hloop]

inductive Built (c : Context) (P : Slot → List Module → Prop) : Node → Module → Prop
  | branch {node : Node} {cases directives} : node.kind = StepType.condition →
      List.Forall₂ (fun expr case => case.expr = Expression.normalize expr c.ids ∧
        P (.branch node.id expr) case.body) (Scope.expressions c.edges node.id) cases →
      Built c P node (.mk (ModuleId.ofId node.id) (.branch cases) directives)
  | loop {node : Node} {body directives parallel skipFailures} : node.kind = StepType.forEach →
      P (.loop node.id) body →
      Built c P node
        (.mk (ModuleId.ofId node.id) (.loop (iterator c.ids node) body parallel skipFailures)
          directives)
  | step {node : Node} {m : Module} : node.kind ≠ StepType.condition →
      node.kind ≠ StepType.forEach →
      m.id = ModuleId.ofId node.id → m.bodies = [] → Built c P node m

namespace Built

variable {c : Context} {P Q R : Slot → List Module → Prop} {node : Node} {m : Module}

theorem id_eq (h : Built c P node m) : m.id = ModuleId.ofId node.id := by
  cases h with
  | branch _ _ => rfl
  | loop _ _ => rfl
  | step _ _ hid _ => exact hid

theorem mp (h : Built c P node m) (h' : Built c Q node m)
    (himp : ∀ slot ∈ slots c node, ∀ body, P slot body → Q slot body → R slot body) :
    Built c R node m := by
  cases h with
  | branch hkind hcases =>
    cases h' with
    | branch _ hcases' =>
      have hslots : ∀ expr ∈ Scope.expressions c.edges node.id, Slot.branch node.id expr ∈
          slots c node := fun expr hexpr => slots_condition hkind ▸ List.mem_map_of_mem hexpr
      refine .branch hkind
        (List.Forall₂.mp ?_ ((List.forall₂_and_left _ _).mpr ⟨hslots, hcases⟩) hcases')
      rintro expr case ⟨hslot, hexpr, hbody⟩ ⟨_, hbody'⟩
      exact ⟨hexpr, himp _ hslot _ hbody hbody'⟩
    | step hkind' _ _ _ => exact absurd hkind hkind'
  | loop hkind hbody =>
    cases h' with
    | loop _ hbody' => exact .loop hkind (himp _ (by simp [slots_forEach hkind]) _ hbody hbody')
    | step _ hkind' _ _ => exact absurd hkind hkind'
  | step hcondition hloop hid hbodies => exact .step hcondition hloop hid hbodies

theorem imp (h : Built c P node m)
    (himp : ∀ slot ∈ slots c node, ∀ body, P slot body → Q slot body) : Built c Q node m :=
  h.mp h fun slot hslot body hbody _ => himp slot hslot body hbody

theorem bodies_of_slots (h : Built c P node m) : List.Forall₂ P (slots c node) m.bodies := by
  cases h with
  | branch hkind hcases =>
    rw [slots_condition hkind, Module.bodies, List.forall₂_map_left_iff, List.forall₂_map_right_iff]
    exact hcases.imp fun _ _ hcase => hcase.2
  | loop hkind hbody =>
    rw [slots_forEach hkind]
    exact .cons hbody .nil
  | step hcondition hloop _ hbodies =>
    rw [slots_step hcondition hloop, hbodies]
    exact .nil

theorem exists_body (h : Built c P node m) {slot : Slot} (hslot : slot ∈ slots c node) :
    ∃ body ∈ m.bodies, P slot body := exists_right_of_mem h.bodies_of_slots hslot

theorem exists_slot (h : Built c P node m) {body : List Module} (hbody : body ∈ m.bodies) :
    ∃ slot ∈ slots c node, P slot body := exists_left_of_mem h.bodies_of_slots hbody

end Built

theorem hasModule_of_mem_slots {c : Context} {node : Node} {slot : Slot} (h : slot ∈ slots c node) :
    hasModule c.registry node = true := by
  by_cases hcondition : node.kind = StepType.condition
  · simp [hasModule, hcondition]
  · by_cases hloop : node.kind = StepType.forEach
    · simp [hasModule, hloop]
    · simp [slots_step hcondition hloop] at h

theorem built_of_moduleOf {depth : Nat} {found : Option Module}
    (h : moduleOf c depth scope node = .ok found) :
    (hasModule c.registry node = true ∧ ∃ m, found = some m ∧
      Built c (fun slot body => modules c depth (within scope (slot.steps c)) = .ok body) node m) ∨
    (hasModule c.registry node = false ∧ found = none) := by
  by_cases hcondition : node.kind = StepType.condition
  · obtain ⟨cases, directives, rfl, hcases⟩ := moduleOf_condition hcondition h
    exact .inl ⟨by simp [hasModule, hcondition], _, rfl, .branch hcondition hcases⟩
  · by_cases hloop : node.kind = StepType.forEach
    · obtain ⟨body, directives, rfl, hbody⟩ := moduleOf_forEach hloop h
      exact .inl ⟨by simp [hasModule, hloop], _, rfl, .loop hloop hbody⟩
    · rcases stepModule_eq_ok (moduleOf_step hcondition hloop ▸ h) with
        ⟨hwait, seconds, directives, rfl⟩ | ⟨_, path, directives, hpath, rfl⟩ |
        ⟨hwait, hpath, _, rfl⟩
      · exact .inl ⟨by simp [hasModule, hwait], _, rfl, .step hcondition hloop rfl rfl⟩
      · exact .inl ⟨by simp [hasModule, hpath], _, rfl, .step hcondition hloop rfl rfl⟩
      · exact .inr ⟨by simp [hasModule, hcondition, hloop, hwait, hpath], rfl⟩

def sites (c : Context) (depth : Nat) (scope : List Node) : List Spot :=
  (layout c depth scope).filter fun spot => hasModule c.registry spot.2

def Made (c : Context) (spot : Spot) (m : Module) : Prop :=
  ∃ depth scope, moduleOf c depth scope spot.2 = .ok (some m)

theorem Made.id_eq {spot : Spot} {made : Module} (h : Made c spot made) :
    made.id = ModuleId.ofId spot.2.id := by
  obtain ⟨depth, scope, h⟩ := h
  rcases built_of_moduleOf h with ⟨_, m, hm, hbuilt⟩ | ⟨_, hm⟩
  · exact Option.some.inj hm ▸ hbuilt.id_eq
  · cases hm

theorem sites_succ : sites c (depth + 1) scope = (unclaimed c scope).flatMap fun node =>
    (if hasModule c.registry node then [([], node)] else []) ++ (slots c node).flatMap fun slot =>
      (sites c depth (within scope (slot.steps c))).map (enclose slot) := by
  simp only [sites, layout, List.filter_flatMap, List.filter_map, List.filter_cons]
  congr 1
  funext node
  split <;> rfl

theorem mem_sites (hdepth : scope.length ≤ depth) {path : List Slot} :
    (path, node) ∈ sites c depth scope ↔
      Stands c scope path node ∧ hasModule c.registry node = true := by
  simp [sites, mem_layout_iff hdepth]

theorem preorder_moduleOf (hbodies : ∀ body ms, modules c depth body = .ok ms →
      List.Forall₂ (Made c) (sites c depth body) (Plan.preorder ms))
    (h : moduleOf c depth scope node = .ok m) :
    List.Forall₂ (Made c)
      ((if hasModule c.registry node then [([], node)] else [])
        ++ (slots c node).flatMap fun slot =>
        (sites c depth (within scope (slot.steps c))).map (enclose slot))
      (Plan.preorder m.toList) := by
  rcases built_of_moduleOf h with ⟨hmodule, made, rfl, hbuilt⟩ | ⟨hmodule, rfl⟩
  · have hinner : List.Forall₂ (Made c) ((slots c node).flatMap fun slot =>
        (sites c depth (within scope (slot.steps c))).map (enclose slot))
          (Plan.preorderOf made) := by
      rw [Plan.preorderOf_eq_flatMap]
      refine List.rel_flatMap hbuilt.bodies_of_slots ?_
      intro slot body hbody
      exact List.forall₂_map_left_iff.mpr (hbodies _ _ hbody)
    simpa [hmodule, Plan.preorder] using List.Forall₂.cons ⟨depth, scope, h⟩ hinner
  · have hslots : slots c node = [] := by
      refine List.eq_nil_iff_forall_not_mem.mpr fun slot hslot => ?_
      simp [hasModule_of_mem_slots hslot] at hmodule
    simp [hmodule, hslots, Plan.preorder]

theorem preorder_modules {ms : List Module} (h : modules c depth scope = .ok ms) :
    List.Forall₂ (Made c) (sites c depth scope) (Plan.preorder ms) := by
  induction depth generalizing scope ms with
  | zero =>
    cases h
    exact .nil
  | succ depth ih =>
    obtain ⟨found, hfound, rfl⟩ := modules_succ_eq_ok.mp h
    -- node by node, each with its own module and the bodies inside it
    rw [sites_succ, Plan.preorder_filterMap]
    exact List.rel_flatMap hfound fun node m hm => preorder_moduleOf (fun _ _ => ih) hm

theorem failureModule_eq_ok {registry : Registry} {ids : List String}
    (h : failureModule registry ids node = .ok m) :
    m = none ∨ ∃ path params directives,
    m = some (.mk (ModuleId.ofId node.id) (.script path params) directives) := by
  obtain ⟨found, hfound, h⟩ := bind_eq_ok_iff.mp h
  rcases stepModule_eq_ok hfound with
    ⟨_, seconds, directives, rfl⟩ | ⟨_, path, directives, _, rfl⟩ | ⟨_, _, _, rfl⟩
  · exact .inl (pure_eq_ok_iff.mp h).symm
  · exact .inr ⟨_, _, _, (pure_eq_ok_iff.mp h).symm⟩
  · exact .inl (pure_eq_ok_iff.mp h).symm

end Compile

end Flowplan
