import Flowplan.Proofs.Plan.Params

namespace Flowplan

mutual

inductive Module.Same : Module → Module → Prop
  | mk (id directives) {body body'} : Body.Same body body' →
      Module.Same (.mk id body directives) (.mk id body' directives)

inductive Body.Same : Body → Body → Prop
  | script (path) {params params'} : Entries.Rel Param.Alike params params' →
      Body.Same (.script path params) (.script path params')
  | pause {seconds seconds'} : Json.Alike seconds seconds' →
      Body.Same (.pause seconds) (.pause seconds')
  | branch {cases cases'} : List.Forall₂ Case.Same cases cases' →
      Body.Same (.branch cases) (.branch cases')
  | loop (iterator parallel skipFailures) {body body'} : List.Forall₂ Module.Same body body' →
      Body.Same (.loop iterator body parallel skipFailures)
        (.loop iterator body' parallel skipFailures)

inductive Case.Same : Case → Case → Prop
  | mk (expr) {body body'} : List.Forall₂ Module.Same body body' →
      Case.Same (.mk expr body) (.mk expr body')

end

structure Plan.Same (plan other : Plan) : Prop where
  summary : plan.summary = other.summary
  modules : List.Forall₂ Module.Same plan.modules other.modules
  inputs : Entries.Rel Json.Alike plan.inputs other.inputs
  failure : Option.Rel Module.Same plan.failure other.failure
  sameWorker : plan.sameWorker = other.sameWorker

section Fields

variable {α : Type} {name : String} {value value' : Option α} {write : α → Json}
  {rest rest' : Entries Json}

@[simp] theorem mem_names_fieldIf {other : String} :
    other ∈ Entries.names (fieldIf name value write) ↔ other = name ∧ value.isSome = true := by
  cases value <;> simp [fieldIf]

theorem rel_fieldIf_append_iff (h : name ∉ rest.names) (h' : name ∉ rest'.names) :
    Entries.Rel Json.Alike (fieldIf name value write ++ rest) (fieldIf name value' write ++ rest') ↔
      Option.Rel (fun a b => (write a).Alike (write b)) value value' ∧
      Entries.Rel Json.Alike rest rest' := by
  cases value with
  | none =>
    cases value' with
    | none => exact (and_iff_right .none).symm
    | some b =>
      exact iff_of_false (fun hrel => h (hrel.names_perm.mem_iff.mpr List.mem_cons_self)) nofun
  | some a =>
    cases value' with
    | none =>
      exact iff_of_false (fun hrel => h' (hrel.names_perm.mem_iff.mp List.mem_cons_self)) nofun
    | some b =>
      rw [Option.rel_some_some]
      exact Entries.rel_cons_iff h

theorem rel_fieldIf_iff :
    Entries.Rel Json.Alike (fieldIf name value write) (fieldIf name value' write) ↔
      Option.Rel (fun a b => (write a).Alike (write b)) value value' := by
  rw [← List.append_nil (fieldIf name value write), ← List.append_nil (fieldIf name value' write),
    rel_fieldIf_append_iff List.not_mem_nil List.not_mem_nil]
  exact and_iff_left ⟨[], .nil, .nil⟩

theorem rel_eq_iff : Option.Rel (fun a b => a = b) value value' ↔ value = value' := by
  constructor
  · rintro (rfl | _)
    · rfl
    · rfl
  · rintro rfl
    cases value with
    | none => exact .none
    | some a => exact .some rfl

end Fields

theorem Param.wire_alike_iff {p q : Param} : p.wire.Alike q.wire ↔ p.Alike q := by
  constructor
  · intro h
    cases p with
    | static value =>
      cases q with
      | static other => exact .static (by simpa [wire] using h)
      | expr text => simp [wire] at h
    | expr text =>
      cases q with
      | static other => simp [wire] at h
      | expr other =>
        obtain rfl : text = other := by simpa [wire] using h
        exact .expr text
  · rintro (h | text)
    · simpa [wire] using h
    · simp [wire]

theorem Params.rel_wire_iff {params others : Entries Param} :
    Entries.Rel Json.Alike (params.map fun field => (field.1, field.2.wire))
      (others.map fun field => (field.1, field.2.wire)) ↔
        Entries.Rel Param.Alike params others := by
  refine Entries.rel_mapValues_iff.trans ?_
  simp only [Param.wire_alike_iff]

theorem Retry.wire_alike_iff {retry other : Retry} : retry.wire.Alike other.wire ↔
    retry = other := by
  obtain ⟨attempts, seconds⟩ := retry
  obtain ⟨attempts', seconds'⟩ := other
  simp [Retry.wire]

theorem Body.same_script_iff {path path' : String} {params params' : Entries Param} :
    (Body.script path params).Same (.script path' params') ↔
      path = path' ∧ Entries.Rel Param.Alike params params' :=
  ⟨fun h => by
    cases h with | script path h => exact ⟨rfl, h⟩, fun ⟨hpath, h⟩ => hpath ▸ .script path h⟩

theorem Body.same_pause_iff {seconds seconds' : Json} :
    (Body.pause seconds).Same (.pause seconds') ↔ seconds.Alike seconds' :=
  ⟨fun h => by cases h with | pause h => exact h, .pause⟩

theorem Body.same_branch_iff {cases cases' : List Case} :
    (Body.branch cases).Same (.branch cases') ↔ List.Forall₂ Case.Same cases cases' :=
  ⟨fun h => by cases h with | branch h => exact h, .branch⟩

theorem Body.same_loop_iff {iterator iterator' : String} {body body' : List Module}
    {parallel parallel' skipFailures skipFailures' : Bool} :
    (Body.loop iterator body parallel skipFailures).Same
        (.loop iterator' body' parallel' skipFailures') ↔
      iterator = iterator' ∧ List.Forall₂ Module.Same body body' ∧ skipFailures = skipFailures' ∧
        parallel = parallel' := by
  constructor
  · rintro ⟨⟩
    exact ⟨rfl, ‹_›, rfl, rfl⟩
  · rintro ⟨rfl, h, rfl, rfl⟩
    exact .loop iterator parallel skipFailures h

theorem Case.same_iff {expr expr' : String} {body body' : List Module} :
    (Case.mk expr body).Same (.mk expr' body') ↔
      expr = expr' ∧ List.Forall₂ Module.Same body body' :=
  ⟨fun h => by cases h with | mk expr h => exact ⟨rfl, h⟩, fun ⟨hexpr, h⟩ => hexpr ▸ .mk expr h⟩

theorem Module.same_iff {id id' : String} {body body' : Body}
    {directives directives' : Directives} :
    (Module.mk id body directives).Same (.mk id' body' directives') ↔
      id = id' ∧ body.Same body' ∧ directives = directives' := by
  constructor
  · rintro ⟨⟩
    exact ⟨rfl, ‹_›, rfl⟩
  · rintro ⟨rfl, h, rfl⟩
    exact .mk id directives h

namespace Plan

theorem notMem_names_wireBody {name : String} (hvalue : name ≠ "value") (hsleep : name ≠ "sleep")
    (body : Body) : name ∉ Entries.names (wireBody body) := by
  cases body <;> simp [wireBody, hvalue, hsleep]

mutual

theorem wireModules_alike_iff (ms others : List Module) :
    List.Forall₂ Json.Alike (wireModules ms) (wireModules others) ↔
      List.Forall₂ Module.Same ms others := by
  cases ms with
  | nil => cases others <;> simp [wireModules]
  | cons m ms =>
    cases others with
    | nil => simp [wireModules]
    | cons other others =>
      rw [wireModules, wireModules, List.forall₂_cons, List.forall₂_cons, wireModule_alike_iff,
        wireModules_alike_iff ms]
termination_by structural ms

theorem rel_wireBody_iff (body body' : Body) {rest rest' : Entries Json}
    (hvalue : "value" ∉ rest.names) (hsleep : "sleep" ∉ rest.names) :
    Entries.Rel Json.Alike (wireBody body ++ rest) (wireBody body' ++ rest') ↔
      body.Same body' ∧ Entries.Rel Json.Alike rest rest' := by
  cases body with
  | script path params =>
    cases body' with
    | script path' params' => simp [wireBody, hvalue, Params.rel_wire_iff, Body.same_script_iff]
    -- bodies of two kinds differ in the type that their value begins with
    | pause _ | branch _ | loop _ _ _ _ => exact iff_of_false (by simp [wireBody, hvalue]) nofun
  | pause seconds =>
    cases body' with
    | pause seconds' => simp [wireBody, hvalue, hsleep, Body.same_pause_iff]
    | script _ _ | branch _ | loop _ _ _ _ => exact iff_of_false (by simp [wireBody, hvalue]) nofun
  | branch cases =>
    cases body' with
    | branch cases' => simp [wireBody, hvalue, Body.same_branch_iff, wireCases_alike_iff cases]
    | script _ _ | pause _ | loop _ _ _ _ => exact iff_of_false (by simp [wireBody, hvalue]) nofun
  | loop iterator body parallel skipFailures =>
    cases body' with
    | loop iterator' body' parallel' skipFailures' =>
      simp [wireBody, hvalue, Body.same_loop_iff, wireModules_alike_iff body]
    | script _ _ | pause _ | branch _ => exact iff_of_false (by simp [wireBody, hvalue]) nofun
termination_by structural body

theorem wireCases_alike_iff (cases others : List Case) :
    List.Forall₂ Json.Alike (wireCases cases) (wireCases others) ↔
      List.Forall₂ Case.Same cases others := by
  cases cases with
  | nil => cases others <;> simp [wireCases]
  | cons c cases =>
    cases others with
    | nil => simp [wireCases]
    | cons other others =>
      rw [wireCases, wireCases, List.forall₂_cons, List.forall₂_cons, wireCase_alike_iff,
        wireCases_alike_iff cases]
termination_by structural cases

theorem wireCase_alike_iff (c other : Case) : (wireCase c).Alike (wireCase other) ↔
    c.Same other := by
  cases c with
  | mk expr body =>
    cases other with
    | mk expr' body' =>
      rw [Case.same_iff, ← wireModules_alike_iff body]
      simp [wireCase]
termination_by structural c

theorem wireModule_alike_iff (m other : Module) :
    (wireModule m).Alike (wireModule other) ↔ m.Same other := by
  cases m with
  | mk id body directives =>
    cases other with
    | mk id' body' directives' =>
      obtain ⟨summary, retry, stopAfter, skipIf⟩ := directives
      obtain ⟨summary', retry', stopAfter', skipIf'⟩ := directives'
      rw [wireModule, wireModule]
      -- no two fields have one name, so they are compared one by one
      simp [rel_fieldIf_append_iff, rel_fieldIf_iff, rel_wireBody_iff body, notMem_names_wireBody,
        Retry.wire_alike_iff, rel_eq_iff, Module.same_iff, and_left_comm]
termination_by structural m

end

variable {plan other : Plan}

theorem flowValue_alike_iff : plan.flowValue.Alike other.flowValue ↔
    List.Forall₂ Module.Same plan.modules other.modules ∧ plan.sameWorker = other.sameWorker ∧
      Option.Rel Module.Same plan.failure other.failure := by
  simp [flowValue, rel_fieldIf_iff, wireModules_alike_iff, wireModule_alike_iff]

theorem schema_alike_iff :
    plan.schema.Alike other.schema ↔ Entries.Rel Json.Alike plan.inputs other.inputs := by
  simp [schema]

/-- Two plans have the same document, up to the order of names, just if they are the same plan. -/
theorem wire_alike_iff_same : plan.wire.Alike other.wire ↔ plan.Same other := by
  have hwire : plan.wire.Alike other.wire ↔
      plan.summary = other.summary ∧ plan.flowValue.Alike other.flowValue ∧
      plan.schema.Alike other.schema := by
    simp [wire]
  rw [hwire, flowValue_alike_iff, schema_alike_iff]
  constructor
  · rintro ⟨hsummary, ⟨hmodules, hworker, hfailure⟩, hinputs⟩
    exact ⟨hsummary, hmodules, hinputs, hfailure, hworker⟩
  · rintro ⟨hsummary, hmodules, hinputs, hfailure, hworker⟩
    exact ⟨hsummary, ⟨hmodules, hworker, hfailure⟩, hinputs⟩

end Plan

end Flowplan
