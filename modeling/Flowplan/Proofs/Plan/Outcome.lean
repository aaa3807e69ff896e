import Flowplan.Proofs.Plan.Compiled

namespace Flowplan

theorem Double.exists_truncate_iff {x : Double} : (∃ n, x.truncate = some n) ↔
    x.isFinite = true := by
  rw [truncate, isFinite]
  cases x.read <;> simp

namespace Compile

variable {c : Context} {registry : Registry} {ids : List String} {depth : Nat} {scope : List Node}
  {node : Node} {error : CompileError}

/-- Unless a step has retries of its own, a float in their place in its configuration is finite. -/
def Countable (node : Node) : Prop :=
  node.retries = none → ∀ x, node.config.lookup "retries" = some (.float x) → x.isFinite = true

theorem exists_retries_iff : (∃ n, retries node = .ok n) ↔ Countable node := by
  simp only [retries, Countable, ← Double.exists_truncate_iff]
  cases node.retries with
  | some n => simp
  | none =>
    cases node.config.lookup "retries" with
    | none => simp
    | some value =>
      cases value with
      | float x => cases htruncate : x.truncate <;> simp [htruncate]
      | _ => simp

theorem retries_eq_error (h : retries node = .error error) :
    error = .endlessRetries ∨ error = .undefinedRetries := by
  rw [retries] at h
  split at h
  · cases h
  · split at h
    · cases h
    · next x _ =>
      split at h
      · cases h
      · by_cases hundefined : x.read = .undefined
        · exact .inr (by simpa [hundefined] using h.symm)
        · exact .inl (by simpa [hundefined] using h.symm)
    · cases h

theorem stepModule_eq_error (h : stepModule registry ids node = .error error) :
    node.kind ≠ StepType.wait ∧
    ((registry.scriptPath node.kind).isSome = true ∧ retries node = .error error ∨
      registry.scriptPath node.kind = none ∧ registry.isNative node.kind = false) := by
  rw [stepModule] at h
  split at h
  · cases h
  · next hwait =>
    refine ⟨by simpa using hwait, ?_⟩
    split at h
    · next path hpath =>
      exact .inl ⟨by simp [hpath], bind_pure_eq_error_iff.mp h⟩
    · next hpath =>
      split at h
      · cases h
      · next hnative => exact .inr ⟨hpath, by simpa using hnative⟩

theorem exists_retries_of_stepModule {m : Option Module} (hwait : node.kind ≠ StepType.wait)
    (hscript : (registry.scriptPath node.kind).isSome = true)
    (h : stepModule registry ids node = .ok m) : ∃ n, retries node = .ok n := by
  obtain ⟨path, hpath⟩ := Option.isSome_iff_exists.mp hscript
  simp only [stepModule, beq_iff_eq, hwait, if_false, hpath, bind_eq_ok_iff] at h
  obtain ⟨n, hn, -⟩ := h
  exact ⟨n, hn⟩

theorem stepModule_of_failureModule (h : failureModule registry ids node = .error error) :
    stepModule registry ids node = .error error := by
  rw [failureModule] at h
  obtain hstep | ⟨m, -, h⟩ := bind_eq_error_iff.mp h
  · exact hstep
  · split at h <;> cases h

theorem moduleOf_eq_error (h : moduleOf c depth scope node = .error error) :
    (∃ slot ∈ slots c node, modules c depth (within scope (slot.steps c)) = .error error) ∨
    node.kind ≠ StepType.condition ∧ node.kind ≠ StepType.forEach ∧
      stepModule c.registry c.ids node = .error error := by
  by_cases hcondition : node.kind = StepType.condition
  · simp only [moduleOf, hcondition, beq_self_eq_true, if_true, bind_pure_eq_error_iff] at h
    obtain ⟨expr, hexpr, herror⟩ := exists_error_of_mapM h
    replace herror := bind_pure_eq_error_iff.mp herror
    exact .inl
      ⟨.branch node.id expr, slots_condition hcondition ▸ List.mem_map_of_mem hexpr, herror⟩
  · by_cases hloop : node.kind = StepType.forEach
    · have hne : (StepType.forEach == StepType.condition) = false := by decide
      simp only [moduleOf, hloop, hne, beq_self_eq_true, Bool.false_eq_true, if_true, if_false,
        bind_pure_eq_error_iff] at h
      exact .inl ⟨.loop node.id, by simp [slots_forEach hloop], h⟩
    · exact .inr ⟨hcondition, hloop, moduleOf_step hcondition hloop ▸ h⟩

theorem exists_spot_of_modules (h : modules c depth scope = .error error) :
    ∃ spot ∈ layout c depth scope, spot.2.kind ≠ StepType.condition ∧
      spot.2.kind ≠ StepType.forEach ∧
      stepModule c.registry c.ids spot.2 = .error error := by
  induction depth generalizing scope with
  | zero => cases h
  | succ depth ih =>
    rw [modules_succ, bind_pure_eq_error_iff] at h
    obtain ⟨node, hnode, hmodule⟩ := exists_error_of_mapM h
    replace hnode := mem_unclaimed.mp hnode
    obtain ⟨slot, hslot, hbody⟩ | hstep := moduleOf_eq_error hmodule
    · obtain ⟨inner, hinner, hstep⟩ := ih hbody
      exact ⟨enclose slot inner,
        mem_layout_succ.mpr ⟨node, hnode, .inr ⟨slot, hslot, inner, hinner, rfl⟩⟩, hstep⟩
    · exact ⟨([], node), mem_layout_succ.mpr ⟨node, hnode, .inl rfl⟩, hstep⟩

end Compile

namespace Graph

open Compile

variable {registry : Registry} {graph : Graph} {name : String} {plan : Plan} {node : Node}
  {error : CompileError}

def Single (graph : Graph) (registry : Registry) (node : Node) : Prop :=
  graph.handler = some node ∨
    node.kind ≠ StepType.condition ∧ node.kind ≠ StepType.forEach ∧ ∃ path,
    graph.Stands registry path node

def Runs (graph : Graph) (registry : Registry) (node : Node) : Prop :=
  node.kind ≠ StepType.wait ∧ (registry.scriptPath node.kind).isSome = true ∧
    graph.Single registry node

theorem isKnown_kind (h : graph.isValid registry = true) (hnode : node ∈ graph.nodes) :
    registry.isKnown node.kind = true := by
  obtain ⟨-, htypes, -⟩ := isValid_iff_checks.mp h
  simp only [unknownTypes, List.map_eq_nil_iff, List.filter_eq_nil_iff, Bool.not_eq_true',
    Bool.not_eq_false] at htypes
  exact htypes node hnode

theorem isKnown_iff {kind : String} :
    registry.isKnown kind = true ↔ (registry.scriptPath kind).isSome = true ∨
      registry.isNative kind = true := by
  rw [Registry.isKnown, Registry.scriptPath, Registry.isNative]
  cases registry.binding? kind with
  | none => simp
  | some binding => cases binding <;> simp [Binding.path?]

theorem exists_stepModule_of_compile (h : graph.compile registry name = .ok plan)
    (hmodule : hasModule registry node = true) (hsingle : graph.Single registry node) :
    ∃ m, stepModule registry graph.ids node = .ok m := by
  obtain ⟨hmodules, hfailure⟩ := compile_eq_ok h
  obtain hhandler | ⟨hcondition, hloop, path, hstands⟩ := hsingle
  · obtain ⟨other, hother, hfailure⟩ | ⟨hnone, -⟩ := hfailure
    · obtain rfl : node = other := Option.some.inj (hhandler.symm.trans hother)
      obtain ⟨m, hstep, -⟩ := bind_eq_ok_iff.mp hfailure
      exact ⟨m, hstep⟩
    · simp [hnone] at hhandler
  · have hsite : (path, node) ∈ graph.sites registry := mem_sites.mpr ⟨hstands, hmodule⟩
    obtain ⟨m, -, depth, scope, hmade⟩ := exists_right_of_mem (preorder_modules hmodules) hsite
    exact ⟨some m, (moduleOf_step hcondition hloop).symm.trans hmade⟩

theorem retries_of_stepModule (hvalid : graph.isValid registry = true) (hnode : node ∈ graph.nodes)
    (h : stepModule registry graph.ids node = .error error) : node.kind ≠ StepType.wait ∧
      (registry.scriptPath node.kind).isSome = true ∧ retries node = .error error := by
  obtain ⟨hwait, hscript | ⟨hnone, hforeign⟩⟩ := stepModule_eq_error h
  · exact ⟨hwait, hscript⟩
  · have hknown := isKnown_kind hvalid hnode
    simp [isKnown_iff, hnone, hforeign] at hknown

theorem exists_of_compile_eq_error (hvalid : graph.isValid registry = true)
    (h : graph.compile registry name = .error error) :
    ∃ node, graph.Runs registry node ∧ retries node = .error error := by
  rw [compile] at h
  obtain hmodules | ⟨ms, -, h⟩ := bind_eq_error_iff.mp h
  · obtain ⟨⟨path, node⟩, hspot, hcondition, hloop, hstep⟩ := exists_spot_of_modules hmodules
    have hstands : graph.Stands registry path node := (mem_layout_iff (Nat.le_refl _)).mp hspot
    obtain ⟨hwait, hscript, hcount⟩ :=
      retries_of_stepModule hvalid ((mem_mainOrder hvalid).mp hstands.mem).1 hstep
    exact ⟨node, ⟨hwait, hscript, .inr ⟨hcondition, hloop, path, hstands⟩⟩, hcount⟩
  · cases hhandler : graph.handler with
    | none => simp [hhandler] at h
    | some node =>
      simp only [hhandler, bind_pure_eq_error_iff] at h
      obtain ⟨hwait, hscript, hcount⟩ :=
        retries_of_stepModule hvalid (mem_nodes_of_handler hhandler).1
          (stepModule_of_failureModule h)
      exact ⟨node, ⟨hwait, hscript, .inl hhandler⟩, hcount⟩

/-- A valid graph compiles exactly when the retries of each step that is to run a script are
finite. Nothing else goes wrong: no step lacks a script. -/
theorem compiles_iff (hvalid : graph.isValid registry = true) (name : String) :
    ((∃ plan, graph.compile registry name = .ok plan) ↔
      ∀ node, graph.Runs registry node → Countable node) ∧
    ∀ error, graph.compile registry name = .error error → error = .endlessRetries ∨
      error = .undefinedRetries := by
  constructor
  · constructor
    · rintro ⟨plan, hcompile⟩ node ⟨hwait, hscript, hsingle⟩
      apply exists_retries_iff.mp
      obtain ⟨m, hstep⟩ :=
        exists_stepModule_of_compile hcompile (by simp [hasModule, hscript]) hsingle
      exact exists_retries_of_stepModule hwait hscript hstep
    · intro hcountable
      cases hcompile : graph.compile registry name with
      | ok plan => exact ⟨plan, rfl⟩
      | error error =>
        obtain ⟨node, hruns, herror⟩ := exists_of_compile_eq_error hvalid hcompile
        obtain ⟨n, hn⟩ := exists_retries_iff.mpr (hcountable node hruns)
        rw [hn] at herror
        cases herror
  · intro error hcompile
    obtain ⟨node, -, herror⟩ := exists_of_compile_eq_error hvalid hcompile
    exact retries_eq_error herror

def retried (count : Double) : Graph where
  nodes := [⟨"send", "http.call", [("retries", .float count)], [], none⟩]
  edges := []
  onError := none

def twoAndAHalf : Double := ⟨0x4004000000000000⟩

theorem compiles_twoAndAHalf : (retried twoAndAHalf).isValid .builtIn = true ∧
    ∃ plan, (retried twoAndAHalf).compile .builtIn "x" = .ok plan := by
  have hvalid : (retried twoAndAHalf).isValid .builtIn = true := by decide
  obtain ⟨hcompiles, -⟩ := compiles_iff hvalid "x"
  refine ⟨hvalid, hcompiles.mpr ?_⟩
  rintro node ⟨-, -, hhandler | ⟨-, -, path, hstands⟩⟩
  · cases hhandler
  · have hnode := ((mem_mainOrder hvalid).mp hstands.mem).1
    obtain rfl := List.mem_singleton.mp hnode
    rintro - x hx
    cases hx
    decide

/-- Nothing is wrong with the graph of a step that is to be tried
again endlessly often, but it does not compile. -/
theorem not_compiles_endless : (retried (.infinity false)).isValid .builtIn = true ∧
    (retried (.infinity false)).compile .builtIn "x" = .error .endlessRetries := by
  constructor
  · decide
  · rfl

end Graph

end Flowplan
