import Flowplan.Proofs.Plan.Compiled
import Flowplan.Proofs.Plan.Inputs
import Flowplan.Proofs.Plan.Params

/-!
# Plans of alike graphs

Graphs of one signature compile to one plan, up to the order of names: the same tree of modules
with the same expressions, directives and paths. Only the objects that scripts receive under the
roots of dotted names are texts that depend on the order in which a step has its names.
-/

namespace Flowplan

mutual

/-- Modules that differ at most in the order of names in their values, in what a pause says about
itself, and in the parameters of a script under the roots of the step that it is compiled from. -/
inductive Module.Alike (origin : Module → Node → Prop) : Module → Module → Prop
  | script {id path params params' directives node} :
      origin (.mk id (.script path params) directives) node →
      Entries.Agree Param.Alike (· ∈ node.roots) params params' →
      Module.Alike origin (.mk id (.script path params) directives)
        (.mk id (.script path params') directives)
  | pause {id seconds seconds' summary summary'} : Json.Alike seconds seconds' →
      Module.Alike origin (.mk id (.pause seconds) { summary := summary })
        (.mk id (.pause seconds') { summary := summary' })
  | branch {id cases cases' directives} : List.Forall₂ (Case.Alike origin) cases cases' →
      Module.Alike origin (.mk id (.branch cases) directives) (.mk id (.branch cases') directives)
  | loop {id iterator body body' parallel skipFailures directives} :
      List.Forall₂ (Module.Alike origin) body body' →
      Module.Alike origin (.mk id (.loop iterator body parallel skipFailures) directives)
        (.mk id (.loop iterator body' parallel skipFailures) directives)

inductive Case.Alike (origin : Module → Node → Prop) : Case → Case → Prop
  | mk (expr) {body body'} : List.Forall₂ (Module.Alike origin) body body' →
      Case.Alike origin (.mk expr body) (.mk expr body')

end

def Graph.Origin (graph : Graph) (build : Node → Except CompileError (Option Module)) (m : Module)
    (node : Node) : Prop :=
  node ∈ graph.nodes ∧ build node = .ok (some m)

/-- Plans, the first that of a graph, that are the same up to the order
of names and to the parameters under roots. -/
structure Plan.Alike (graph : Graph) (registry : Registry) (plan other : Plan) : Prop where
  summary : plan.summary = other.summary
  modules : List.Forall₂ (Module.Alike (graph.Origin (Compile.stepModule registry graph.ids)))
    plan.modules other.modules
  inputs : plan.inputs.Perm other.inputs
  failure : Option.Rel (Module.Alike (graph.Origin (Compile.failureModule registry graph.ids)))
    plan.failure other.failure
  sameWorker : plan.sameWorker = other.sameWorker

theorem Json.truthy_eq_of_alike {value other : Json} (h : value.Alike other) :
    value.truthy = other.truthy := by
  cases h with
  | arr hitems => cases hitems <;> rfl
  | obj hmiddle hperm =>
    have hlength := hmiddle.length_eq.trans hperm.length_eq
    rw [truthy, truthy, Bool.not_inj_iff, Bool.eq_iff_iff, List.isEmpty_iff_length_eq_zero,
      List.isEmpty_iff_length_eq_zero, hlength]
  | _ => rfl

@[elab_as_elim]
theorem Node.Alike.config_cases {node node' : Node} {motive : Option Json → Option Json → Prop}
    (h : node.Alike node') (name : String) (none : motive none none)
    (some : ∀ value value', Json.Alike value value' → motive (some value) (some value')) :
    motive (node.config.lookup name) (node'.config.lookup name) := by
  have hlookup := h.config.lookup name not_false
  generalize node.config.lookup name = value, node'.config.lookup name = value' at hlookup
  cases hlookup with
  | some hvalue => exact some _ _ hvalue
  | none => exact none

namespace Compile

variable {registry : Registry} {ids : List String} {origin : Module → Node → Prop}
  {node node' : Node}

theorem retries_eq_of_alike (h : node.Alike node') : retries node = retries node' := by
  rw [retries, retries, h.retries]
  refine h.config_cases "retries" rfl fun value value' halike => ?_
  cases halike <;> rfl

theorem controlExpr_eq_of_alike (h : node.Alike node') (name : String) :
    controlExpr ids node name = controlExpr ids node' name := by
  rw [controlExpr, controlExpr]
  refine h.config_cases name rfl fun value value' halike => ?_
  cases halike <;> rfl

theorem iterator_eq_of_alike (h : node.Alike node') : iterator ids node = iterator ids node' := by
  rw [iterator, iterator]
  refine h.config_cases "iterator" rfl fun value value' halike => ?_
  cases halike <;> rfl

theorem flag_eq_of_alike (h : node.Alike node') (name : String) :
    flag node name = flag node' name := by
  rw [flag, flag]
  exact h.config_cases name rfl fun value value' halike => Json.truthy_eq_of_alike halike

def pauseModule (node : Node) : Module :=
  let seconds := (node.config.lookup "seconds").getD (.int 0)
  .mk (ModuleId.ofId node.id) (.pause seconds) { summary := some s!"Wait {seconds.display}s" }

def scriptModule (ids : List String) (path : String) (node : Node) (count : Int) : Module :=
  .mk (ModuleId.ofId node.id) (.script path (scriptParams node)) {
    summary := some s!"{node.kind}: {node.id}"
    retry := some (Retry.ofCount count)
    stopAfter := controlExpr ids node "stopAfterIf"
    skipIf := controlExpr ids node "skipIf" }

theorem stepModule_wait (hkind : node.kind = StepType.wait) :
    stepModule registry ids node = .ok (some (pauseModule node)) := by
  rw [stepModule, if_pos (beq_iff_eq.mpr hkind)]
  rfl

theorem stepModule_script {path : String} (hkind : node.kind ≠ StepType.wait)
    (hpath : registry.scriptPath node.kind = some path) :
    stepModule registry ids node =
      retries node >>= fun count => .ok (some (scriptModule ids path node count)) := by
  rw [stepModule, if_neg (mt beq_iff_eq.mp hkind), hpath]
  rfl

theorem stepModule_native (hkind : node.kind ≠ StepType.wait)
    (hpath : registry.scriptPath node.kind = none) :
    stepModule registry ids node = if registry.isNative node.kind then .ok none
    else .error (.noScript node.kind) := by
  rw [stepModule, if_neg (mt beq_iff_eq.mp hkind), hpath]

theorem pauseModule_alike (h : node.Alike node') :
    Module.Alike origin (pauseModule node) (pauseModule node') := by
  rw [pauseModule, pauseModule, h.id]
  refine .pause (h.config_cases "seconds" (.int 0) fun value value' halike => halike)

theorem scriptModule_alike (h : node.Alike node') {path : String} {count : Int}
    (horigin : origin (scriptModule ids path node count) node) :
    Module.Alike origin (scriptModule ids path node count) (scriptModule ids path node' count) := by
  have heq : scriptModule ids path node' count =
      .mk (ModuleId.ofId node.id) (.script path (scriptParams node'))
      (scriptModule ids path node count).directives := by
    rw [scriptModule, ← h.id, ← h.kind, ← controlExpr_eq_of_alike h, ← controlExpr_eq_of_alike h]
    rfl
  rw [heq]
  exact .script horigin (agree_scriptParams h)

theorem stepModule_alike (h : node.Alike node')
    (horigin : ∀ m, stepModule registry ids node = .ok (some m) → origin m node) :
    ExceptRel (Option.Rel (Module.Alike origin)) (stepModule registry ids node)
      (stepModule registry ids node') := by
  by_cases hwait : node.kind = StepType.wait
  · rw [stepModule_wait hwait, stepModule_wait (h.kind ▸ hwait)]
    exact .ok (.some (pauseModule_alike h))
  · have hwait' : node'.kind ≠ StepType.wait := h.kind ▸ hwait
    cases hpath : registry.scriptPath node.kind with
    | some path =>
      rw [stepModule_script hwait hpath] at horigin ⊢
      rw [stepModule_script hwait' (h.kind ▸ hpath), ← retries_eq_of_alike h]
      cases hcount : retries node with
      | error e => exact .error e
      | ok count => exact .ok (.some (scriptModule_alike h (horigin _ (hcount ▸ rfl))))
    | none =>
      rw [stepModule_native hwait hpath, stepModule_native hwait' (h.kind ▸ hpath), ← h.kind]
      split
      · exact .ok .none
      · exact .error _

theorem failureModule_alike (h : node.Alike node')
    (horigin : ∀ m, failureModule registry ids node = .ok (some m) → origin m node) :
    ExceptRel (Option.Rel (Module.Alike origin)) (failureModule registry ids node)
      (failureModule registry ids node') := by
  have hstep : ExceptRel (Option.Rel (Module.Alike fun _ other => other = node))
      (stepModule registry ids node)
      (stepModule registry ids node') := stepModule_alike h fun _ _ => rfl
  rw [failureModule] at horigin ⊢
  rw [failureModule, ← h.id]
  generalize stepModule registry ids node = found, stepModule registry ids node' =
    found' at hstep horigin ⊢
  cases hstep with
  | error e => exact .error e
  | ok hfound =>
    cases hfound with
    | none => exact .ok .none
    | some hmodule =>
      cases hmodule with
      | script horiginal hagree =>
        subst horiginal
        exact .ok (.some (.script (horigin _ rfl) (agree_inject errorParams hagree)))
      | pause _ | branch _ | loop _ => exact .ok .none

structure Context.Alike (c c' : Context) : Prop where
  registry : c.registry = c'.registry
  edges : c.edges = c'.edges
  ids : c.ids = c'.ids
  ordered : c.ordered.map Node.id = c'.ordered.map Node.id

variable {graph : Graph} {c c' : Context} {scope scope' : List Node} {depth : Nat}

theorem Context.Alike.steps_eq (hc : c.Alike c') : Slot.steps c = Slot.steps c' := by
  funext slot
  cases slot with
  | branch id expr => rw [Slot.steps, Slot.steps, hc.edges, Scope.branch, Scope.branch, hc.ordered]
  | loop id => rw [Slot.steps, Slot.steps, hc.edges, Scope.loop, Scope.loop, hc.ordered]

theorem claimed_eq_of_alike (hc : c.Alike c') (h : node.Alike node') :
    claimed c node = claimed c' node' := by
  rw [claimed_eq_flatMap, claimed_eq_flatMap, hc.steps_eq, slots, slots, hc.edges, h.id, h.kind]

theorem flatMap_claimed_eq (hc : c.Alike c') (h : List.Forall₂ graph.Twins scope scope') :
    scope.flatMap (claimed c) = scope'.flatMap (claimed c') := by
  induction h with
  | nil => rfl
  | cons hnode _ ih =>
    rw [List.flatMap_cons, List.flatMap_cons, claimed_eq_of_alike hc hnode.alike, ih]

theorem unclaimed_twins (hc : c.Alike c') (h : List.Forall₂ graph.Twins scope scope') :
    List.Forall₂ graph.Twins (unclaimed c scope) (unclaimed c' scope') := by
  rw [unclaimed, unclaimed, flatMap_claimed_eq hc h]
  exact Graph.filter_twins h fun id => !(scope'.flatMap (claimed c')).contains id

theorem moduleOf_alike (hc : c.Alike c')
    (horigin : ∀ node ∈ graph.nodes, ∀ m, stepModule c.registry c.ids node = .ok (some m) →
      origin m node)
    (hbodies : ∀ ids,
      ExceptRel (List.Forall₂ (Module.Alike origin)) (modules c depth (within scope ids))
      (modules c' depth (within scope' ids)))
    (h : graph.Twins node node') :
    ExceptRel (Option.Rel (Module.Alike origin)) (moduleOf c depth scope node)
      (moduleOf c' depth scope' node') := by
  rw [moduleOf, moduleOf, ← h.alike.id, ← h.alike.kind, ← hc.steps_eq, ← hc.edges, ← hc.ids,
    ← hc.registry]
  split
  · refine ExceptRel.bind (ExceptRel.mapM (List.forall₂_same.mpr fun expr _ => ?_))
      fun cases cases' hcases =>
      .ok (.some (.branch hcases))
    exact (hbodies _).bind fun body body' hbody => .ok (.mk _ hbody)
  · split
    · rw [← iterator_eq_of_alike h.alike, ← flag_eq_of_alike h.alike, ← flag_eq_of_alike h.alike]
      exact (hbodies _).bind fun body body' hbody => .ok (.some (.loop hbody))
    · exact stepModule_alike h.alike (horigin node h.mem)

theorem modules_alike (hc : c.Alike c')
    (horigin : ∀ node ∈ graph.nodes, ∀ m, stepModule c.registry c.ids node = .ok (some m) →
      origin m node)
    (h : List.Forall₂ graph.Twins scope scope') :
    ExceptRel (List.Forall₂ (Module.Alike origin)) (modules c depth scope)
      (modules c' depth scope') := by
  induction depth generalizing scope scope' with
  | zero => exact .ok .nil
  | succ depth ih =>
    rw [modules_succ, modules_succ]
    have hfound := ExceptRel.mapM ((unclaimed_twins hc h).imp fun _ _ hnode =>
      moduleOf_alike hc horigin (fun ids => ih (Graph.filter_twins h ids.contains)) hnode)
    exact hfound.bind fun found found' hfound => .ok (List.rel_filterMap (fun _ _ h => h) hfound)

end Compile

namespace Graph

open Compile

variable {graph other : Graph}

theorem Alike.handlerId_eq (h : graph.Alike other) : graph.handlerId = other.handlerId := by
  rw [handlerId, handlerId, h.onError]

theorem Alike.mainOrder_twins (h : graph.Alike other) :
    List.Forall₂ graph.Twins graph.mainOrder other.mainOrder := by
  rw [mainOrder_eq_filter, mainOrder_eq_filter, h.handlerId_eq]
  exact filter_twins h.topologicalOrder_twins fun id => other.handlerId != some id

theorem Alike.handler_twins (h : graph.Alike other) :
    Option.Rel graph.Twins graph.handler other.handler := by
  rw [handler, handler, h.handlerId_eq]
  cases other.handlerId with
  | none => exact .none
  | some id => exact find?_twins h.twins id

theorem Alike.compileContext_alike (h : graph.Alike other) (registry : Registry) :
    (graph.compileContext registry).Alike (other.compileContext registry) :=
  ⟨rfl, h.edges, h.ids_eq, map_id_eq_of_twins h.mainOrder_twins⟩

theorem Alike.compile_alike (h : graph.Alike other) (registry : Registry) (name : String) :
    ExceptRel (Plan.Alike graph registry) (graph.compile registry name)
      (other.compile registry name) := by
  rw [compile, compile, ← h.mainOrder_twins.length_eq, ← h.ids_eq]
  have horigin : ∀ node ∈ graph.nodes, ∀ m, stepModule registry graph.ids node = .ok (some m) →
      graph.Origin (stepModule registry graph.ids) m node := fun _ hnode _ hm => ⟨hnode, hm⟩
  refine (modules_alike (h.compileContext_alike registry) horigin h.mainOrder_twins).bind
    fun ms ms' hms => ?_
  have hplan : ∀ failure failure',
      Option.Rel (Module.Alike (graph.Origin (failureModule registry graph.ids))) failure failure' →
      Plan.Alike graph registry ⟨name, ms, InputSchema.infer graph, failure, false⟩
        ⟨name, ms', InputSchema.infer other, failure', false⟩ :=
    fun _ _ hfailure => ⟨rfl, hms, InputSchema.infer_perm_of_alike h, hfailure, rfl⟩
  have hhandler := h.handler_twins
  generalize graph.handler = node, other.handler = node' at hhandler
  cases hhandler with
  | none => exact .ok (hplan _ _ .none)
  | some hnode =>
    exact (failureModule_alike hnode.alike fun _ hm => ⟨hnode.mem, hm⟩).bind fun _ _ hfailure =>
      .ok (hplan _ _ hfailure)

/-- Graphs of one signature compile to one plan up to the order of names and to the
objects under the roots of dotted names, or they fail with the same error. Documents are
proper in which no object has a name twice. -/
theorem compile_alike_of_canonicalText_eq (hproper : graph.write.isProper = true)
    (hproper' : other.write.isProper = true)
    (h : graph.write.canonicalText = other.write.canonicalText) (registry : Registry)
    (name : String) :
    ExceptRel (Plan.Alike graph registry) (graph.compile registry name)
      (other.compile registry name) :=
  (alike_of_canonicalText_eq hproper hproper' h).compile_alike registry name

def singleCall (config inputs : Entries Json) : Graph :=
  ⟨[⟨"call", "http.call", config, inputs, none⟩], [], none⟩

def callConfig : Entries Json := [("method", .str "POST"), ("retries", .int 2)]

def callInputs : Entries Json := [("body.name", .str "$ref:flow_input.name"), ("body.age", .int 3)]

theorem compile_alike_of_reversed :
    singleCall callConfig callInputs ≠ singleCall callConfig.reverse callInputs.reverse ∧
    ExceptRel (Plan.Alike (singleCall callConfig callInputs) .builtIn)
      ((singleCall callConfig callInputs).compile .builtIn "Call")
      ((singleCall callConfig.reverse callInputs.reverse).compile .builtIn "Call") :=
  ⟨by decide,
    compile_alike_of_canonicalText_eq (by decide) (by decide) (by decide +kernel) .builtIn "Call"⟩

end Graph

end Flowplan
