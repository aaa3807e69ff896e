import Flowplan.Proofs.Plan.Alike
import Flowplan.Proofs.Plan.Collapse

namespace Flowplan

def Node.asked (node : Node) (name : String) : Option Param :=
  ((node.inputs.lookup name).map Params.ofInput).or
    (if name ∈ Compile.controlNames then none else (node.config.lookup name).map .static)

/-- Parameters that are just those a step asks for, and some that are injected. -/
structure Requested (node : Node) (injected : Entries String) (params : Entries Param) : Prop where
  mem_names : ∀ name, name ∈ params.names ↔
    (∃ key ∈ node.config.names, key ∉ Compile.controlNames ∧
      (Params.segments key).head? = some name) ∨
    (∃ key ∈ node.inputs.names, (Params.segments key).head? = some name) ∨ name ∈ injected.names
  nodup : params.names.Nodup
  notMem : ∀ name ∈ params.names, '.' ∉ name.toList
  lookup : ∀ name, '.' ∉ name.toList → name ∉ node.roots →
    params.lookup name = (node.asked name).or ((injected.lookup name).map .expr)
  collapse : Params.collapse params = params

namespace Params

variable {config inputs : Entries Json} {name : String}

def merged (config inputs : Entries Json) : Entries Param :=
  Entries.putAll (Entries.putAll [] (config.mapValues .static)) (inputs.mapValues ofInput)

theorem mem_names_merged :
    name ∈ (merged config inputs).names ↔ name ∈ config.names ∨ name ∈ inputs.names := by
  simp [merged, Entries.mem_names_putAll]

theorem nodup_names_merged (config inputs : Entries Json) : (merged config inputs).names.Nodup :=
  Entries.nodup_names_putAll (Entries.nodup_names_putAll .nil)

theorem lookup_merged (hconfig : config.names.Nodup) (hinputs : inputs.names.Nodup) :
    (merged config inputs).lookup name =
      ((inputs.lookup name).map ofInput).or ((config.lookup name).map .static) := by
  have hconfig' : (config.mapValues Param.static).names.Nodup := by rwa [Entries.names_mapValues]
  have hinputs' : (inputs.mapValues ofInput).names.Nodup := by rwa [Entries.names_mapValues]
  rw [merged, Entries.lookup_putAll hinputs', Entries.lookup_putAll hconfig',
    Entries.lookup_mapValues, Entries.lookup_mapValues, List.lookup_nil, Option.or_none]

theorem mem_names_ofStep : name ∈ (ofStep config inputs).names ↔
    (∃ key ∈ config.names, (segments key).head? = some name) ∨
    (∃ key ∈ inputs.names, (segments key).head? = some name) := by
  have hmerged : ofStep config inputs = collapse (merged config inputs) := rfl
  simp only [hmerged, mem_names_collapse_iff, mem_names_merged, head_segments, Option.some.injEq,
    or_and_right, exists_or]

end Params

namespace Compile

open Params

variable {node : Node} {registry : Registry} {ids : List String} {params : Entries Param}
  {name : String} {injected fields : Entries String}

theorem inject_cons (params : Entries Param) (field : String × String) (fields : Entries String) :
    inject params (field :: fields) =
      inject (if params.has field.1 then params else params.put field.1 (.expr field.2)) fields :=
  rfl

theorem lookup_inject : (inject params fields).lookup name =
    (params.lookup name).or ((fields.lookup name).map .expr) := by
  induction fields generalizing params with
  | nil => exact (Option.or_none).symm
  | cons field fields ih =>
    rw [inject_cons, ih, Entries.lookup_cons, Entries.has_eq]
    by_cases hname : name = field.1
    · subst hname
      cases hlookup : params.lookup field.1 with
      | none => simp [Entries.lookup_eq_none_iff.mp hlookup]
      | some p => simp [Entries.mem_names_iff, hlookup]
    · by_cases hhas : field.1 ∈ params.names <;> simp [hhas, hname, Entries.lookup_put_of_ne hname]

theorem mem_names_inject :
    name ∈ (inject params fields).names ↔ name ∈ params.names ∨ name ∈ fields.names := by
  rw [Entries.mem_names_iff, lookup_inject, Entries.mem_names_iff, Entries.mem_names_iff]
  simp

theorem nodup_names_inject (h : params.names.Nodup) : (inject params fields).names.Nodup := by
  induction fields generalizing params with
  | nil => exact h
  | cons field fields ih =>
    rw [inject_cons]
    split
    · exact ih h
    · exact ih (Entries.nodup_names_put h)

theorem undotted_contextParams : ∀ name ∈ Entries.names contextParams, '.' ∉ name.toList := by
  decide

theorem undotted_errorParams : ∀ name ∈ Entries.names errorParams, '.' ∉ name.toList := by
  decide

def own (node : Node) : Entries Json :=
  node.config.filter fun entry => !controlNames.contains entry.1

theorem mem_names_own : name ∈ (own node).names ↔
    name ∈ node.config.names ∧ name ∉ controlNames := by
  simpa [own] using Entries.mem_names_filter (fun name => !controlNames.contains name)
    node.config name

theorem nodup_names_own (h : node.config.names.Nodup) : (own node).names.Nodup :=
  h.sublist (List.filter_sublist.map _)

theorem asked_eq (node : Node) (name : String) : node.asked name =
    ((node.inputs.lookup name).map ofInput).or (((own node).lookup name).map .static) := by
  rw [Node.asked, own, Entries.lookup_filter fun name => !controlNames.contains name]
  by_cases hname : name ∈ controlNames <;> simp [hname]

theorem notMem_roots_merged (h : name ∉ node.roots) :
    name ∉ roots (merged (own node) node.inputs).names := by
  refine mt (fun hmem => ?_) h
  obtain ⟨key, hkey, hroot⟩ := mem_roots_iff.mp hmem
  refine mem_roots_iff.mpr ⟨key, List.mem_append.mpr ?_, hroot⟩
  exact (mem_names_merged.mp hkey).imp_left fun hown => (mem_names_own.mp hown).1

theorem requested_ofStep (hconfig : node.config.names.Nodup) (hinputs : node.inputs.names.Nodup) :
    Requested node [] (ofStep (own node) node.inputs) where
  mem_names := fun name => by
    simp only [mem_names_ofStep, mem_names_own, and_assoc, Entries.names_nil,
      List.not_mem_nil, or_false]
  nodup := nodup_names_collapse (nodup_names_merged _ _)
  notMem := fun name hname => by simpa [isDotted] using isDotted_of_mem_collapse hname
  lookup := fun name hdot hroot => by
    have hplain : isDotted name = false := by simpa [isDotted] using hdot
    have hcollapse := lookup_collapse (notMem_roots_merged hroot)
    rw [hplain, Bool.not_false, if_pos rfl] at hcollapse
    rw [List.lookup_nil, Option.map_none, Option.or_none, asked_eq,
      ← lookup_merged (nodup_names_own hconfig) hinputs]
    exact hcollapse
  collapse := collapse_collapse _

theorem requested_inject (h : Requested node injected params)
    (hfields : ∀ name ∈ fields.names, '.' ∉ name.toList) :
    Requested node (injected ++ fields) (inject params fields) := by
  have hundotted : ∀ name ∈ (Compile.inject params fields).names, '.' ∉ name.toList :=
    fun name hname =>
    (mem_names_inject.mp hname).elim (h.notMem name) (hfields name)
  exact {
    mem_names := fun name => by
      rw [mem_names_inject, h.mem_names, Entries.names_append, List.mem_append, or_assoc, or_assoc]
    nodup := nodup_names_inject h.nodup
    notMem := hundotted
    lookup := fun name hdot hroot => by
      rw [lookup_inject, h.lookup name hdot hroot, Option.or_assoc, List.lookup_append,
        Option.map_or]
    collapse := collapse_eq_self fun name hname => by simpa [isDotted] using hundotted name hname }

theorem requested_scriptParams (hconfig : node.config.names.Nodup)
    (hinputs : node.inputs.names.Nodup) : Requested node contextParams (scriptParams node) :=
  requested_inject (requested_ofStep hconfig hinputs) undotted_contextParams

theorem params_of_stepModule {m : Module} {path : String}
    (h : stepModule registry ids node = .ok (some m)) (hbody : m.body = .script path params) :
    params = scriptParams node := by
  rcases stepModule_eq_ok h with
    ⟨_, seconds, directives, hm⟩ | ⟨_, path', directives, _, hm⟩ | ⟨_, _, _, hm⟩
  · cases hm
    cases hbody
  · cases hm
    cases hbody
    rfl
  · cases hm

theorem params_of_failureModule {m : Module} (h : failureModule registry ids node = .ok (some m)) :
    ∃ path, m.body = .script path (inject (scriptParams node) errorParams) := by
  obtain ⟨found, hfound, h⟩ := bind_eq_ok_iff.mp h
  rcases stepModule_eq_ok hfound with
    ⟨_, seconds, directives, rfl⟩ | ⟨_, path, directives, _, rfl⟩ | ⟨_, _, _, rfl⟩
  · cases pure_eq_ok_iff.mp h
  · cases pure_eq_ok_iff.mp h
    exact ⟨path, rfl⟩
  · cases pure_eq_ok_iff.mp h

end Compile

namespace Graph

open Compile

variable {registry : Registry} {graph : Graph} {name : String} {plan : Plan} {m : Module}

theorem exists_origin (h : graph.compile registry name = .ok plan)
    (hm : m ∈ Plan.preorder plan.modules) {path : String} {params : Entries Param}
    (hbody : m.body = .script path params) :
    ∃ node, graph.Origin (stepModule registry graph.ids) m node := by
  obtain ⟨⟨slots, node⟩, hspot, depth, scope, hmade⟩ :=
    exists_left_of_mem (preorder_modules (compile_eq_ok h).1) hm
  have hstands : graph.Stands registry slots node := (mem_sites.mp hspot).1
  have hnode : node ∈ graph.nodes :=
    mem_of_mem_topologicalOrder ((mainOrder_sublist graph).subset hstands.mem)
  by_cases hcondition : node.kind = StepType.condition
  · obtain ⟨_, _, hsome, _⟩ := moduleOf_condition hcondition hmade
    cases hsome
    cases hbody
  · by_cases hloop : node.kind = StepType.forEach
    · obtain ⟨_, _, hsome, _⟩ := moduleOf_forEach hloop hmade
      cases hsome
      cases hbody
    · exact ⟨node, hnode, (moduleOf_step hcondition hloop).symm.trans hmade⟩

def shadowing : Graph where
  nodes := [
    ⟨"call", "http.call", [("retries", .int 1), ("url", .str "/old"), ("body.id", .int 7)],
      [("skipIf", .str "$ref:flow_input.done"), ("url", .str "/new"),
        ("body.user.name", .str "$ref:flow_input.name")],
      none⟩,
    ⟨"report", "http.call", [], [("errorMessage", .str "failed")], none⟩]
  edges := []
  onError := some "report"

end Graph

end Flowplan
