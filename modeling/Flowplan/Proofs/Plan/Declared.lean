import Flowplan.Proofs.Plan.Requested
import Flowplan.Proofs.Plan.Resolution

/-!
# Declared inputs

A run declares the inputs that every run has, and those that references lead to. So whatever run
input an expression in a script of a plan reads is declared, in the object of dotted names too.
-/

namespace Flowplan

namespace Expression

open Reference

def ReadsInput (expr field : String) : Prop :=
  '.' ∉ field.toList ∧ ∃ rest, expr.toList = flowInput ++ '.' :: field.toList ++ rest ∧
    (rest = [] ∨ ['.'] <+: rest)

variable {expr field s : String}

theorem readsInput_iff : ReadsInput expr field ↔
    ∃ more, expr.toList = flowInput ++ '.' :: more ∧ (Text.cut '.' more).1 = field.toList := by
  simp only [ReadsInput, Text.cut_fst_eq_iff]
  constructor
  · rintro ⟨hdot, rest, hexpr, hrest⟩
    exact ⟨field.toList ++ rest, by simp [hexpr], hdot, rest, rfl, hrest⟩
  · rintro ⟨more, hexpr, hdot, rest, rfl, hrest⟩
    exact ⟨hdot, rest, by simp [hexpr], hrest⟩

theorem readsInput_ofReference_iff : ReadsInput (ofReference s) field ↔
    ReadsInput (String.ofList (Reference.path s)) field := by
  rw [ofReference]
  by_cases hfirst : (Text.cut '.' (Reference.path s)).1 = flowInput
  · rw [ofPath_flowInput hfirst]
  · refine iff_of_false ?_ ?_
    · -- the output of a step is no run input
      obtain ⟨rest, hpath, -⟩ := ofPath_step hfirst
      rintro ⟨-, more, hexpr, -⟩
      have hflow : flowInput = 'f' :: "low_input".toList := by decide
      have haccess : access = 'r' :: "esults.".toList := by decide
      simp [hpath, hflow, haccess] at hexpr
    · rintro ⟨-, more, hexpr, -⟩
      rw [String.toList_ofList] at hexpr
      refine hfirst ?_
      rw [hexpr, List.append_assoc]
      exact Text.cut_append (by decide) (.inr ⟨_, rfl⟩)

end Expression

namespace Reference

open Expression

variable {value : Json} {s field : String}

theorem inputField?_eq_some_iff : inputField? (.str s) = some field ↔
    mark <+: s.toList ∧ ReadsInput (ofReference s) field := by
  rw [readsInput_ofReference_iff, readsInput_iff, String.toList_ofList, Reference.path, inputField?]
  constructor
  · intro h
    split at h
    · next hprefix =>
      obtain ⟨more, hmore⟩ := List.isPrefixOf_iff_prefix.mp hprefix
      rw [← hmore, List.drop_left, Option.some_inj] at h
      refine ⟨⟨flowInput ++ ['.'] ++ more, by simp [← hmore]⟩, more, ?_, by simp [← h]⟩
      rw [← hmore, List.append_assoc, List.append_assoc, List.drop_left]
      rfl
    · cases h
  · rintro ⟨⟨path, hpath⟩, more, hmore, hfield⟩
    rw [← hpath, List.drop_left] at hmore
    subst hmore
    have hs : s.toList = mark ++ flowInput ++ ['.'] ++ more := by simp [← hpath]
    rw [hs, if_pos (List.isPrefixOf_iff_prefix.mpr (List.prefix_append _ _)),
      List.drop_left, hfield, String.ofList_toList]

theorem exists_eq_str (h : inputField? value = some field) : ∃ s, value = .str s := by
  cases value with
  | str s => exact ⟨s, rfl⟩
  | _ => cases h

end Reference

/-- A parameter that is a value, or an expression of a kind, or an object of such parameters. -/
inductive Param.MadeOf (expression : String → Prop) : Param → Prop
  | static (value : Json) : MadeOf expression (.static value)
  | expr {text : String} : expression text → MadeOf expression (.expr text)
  | object (base : Entries Json) {children : Entries Param} :
      (∀ child ∈ children, MadeOf expression child.2) →
      MadeOf expression (Params.objectOf base children)

theorem Param.MadeOf.mono {expression other : String → Prop} {p : Param} (h : p.MadeOf expression)
    (himp : ∀ text, expression text → other text) : p.MadeOf other := by
  induction h with
  | static value => exact .static value
  | expr htext => exact .expr (himp _ htext)
  | object base _ ih => exact .object base ih

/-- The expressions that the script of a step receives under a name: references in its inputs,
under the name or behind it and a dot, and what is injected. -/
inductive Node.Gives (node : Node) (name : String) : String → Prop
  | reference {input s : String} : (input, Json.str s) ∈ node.inputs →
      (Params.segments input).head? = some name →
      Reference.mark <+: s.toList → Gives node name (Expression.ofReference s)
  | injected {text : String} : (name, text) ∈ Compile.contextParams ++ Compile.errorParams →
      Gives node name text

namespace Params

variable {params : Entries Param} {config inputs : Entries Json} {expression : String → Prop}
  {name key : String} {p : Param} {value : Json}

theorem madeOf_collapse (h : ∀ key q, (key, q) ∈ params → (segments key).head? = some name →
      q.MadeOf expression)
    (hmem : (name, p) ∈ collapse params) : p.MadeOf expression := by
  rw [collapse_eq] at hmem
  rcases Entries.mem_of_mem_putAll hmem with hplain | hobject
  · obtain ⟨hentry, hdotted⟩ := List.mem_filter.mp hplain
    refine h name p hentry ?_
    rw [head_segments, splitName_of_not_dotted (by simpa using hdotted)]
  · obtain ⟨⟨root, group⟩, hgroup, heq⟩ := List.mem_map.mp hobject
    obtain ⟨rfl, rfl⟩ := Prod.mk.inj heq
    obtain ⟨-, rfl⟩ := mem_groupUnder_iff.mp hgroup
    refine .object _ fun ⟨path, q⟩ hchild => ?_
    obtain ⟨key, hentry, hsplit⟩ := mem_children_iff.mp hchild
    exact h key q hentry (by rw [head_segments, hsplit])

theorem madeOf_ofInput
    (h : ∀ s, value = .str s → Reference.mark <+: s.toList →
      expression (Expression.ofReference s)) : (ofInput value).MadeOf expression := by
  rw [ofInput.eq_def]
  split
  · next s =>
    split
    · next hreference => exact .expr (h s rfl (Reference.isReference_iff.mp hreference))
    · exact .static _
  · exact .static _

theorem madeOf_merged (h : ∀ value, (key, value) ∈ inputs → (ofInput value).MadeOf expression)
    (hmem : (key, p) ∈ merged config inputs) : p.MadeOf expression := by
  rcases Entries.mem_of_mem_putAll hmem with hmem | hinput
  · rcases Entries.mem_of_mem_putAll hmem with hnil | hconfig
    · cases hnil
    · obtain ⟨⟨_, value⟩, -, heq⟩ := List.mem_map.mp hconfig
      obtain ⟨-, rfl⟩ := Prod.mk.inj heq
      exact .static value
  · obtain ⟨⟨_, value⟩, hvalue, heq⟩ := List.mem_map.mp hinput
    obtain ⟨rfl, rfl⟩ := Prod.mk.inj heq
    exact h value hvalue

end Params

namespace Compile

open Params

variable {node : Node} {params : Entries Param} {fields : Entries String}
  {name : String} {p : Param}

theorem mem_of_mem_inject (h : (name, p) ∈ inject params fields) :
    (name, p) ∈ params ∨ ∃ text, (name, text) ∈ fields ∧ p = .expr text := by
  induction fields generalizing params with
  | nil => exact .inl h
  | cons field fields ih =>
    rw [inject_cons] at h
    rcases ih h with h | ⟨text, htext, rfl⟩
    · split at h
      · exact .inl h
      · refine (Entries.mem_of_mem_put h).imp_right fun heq => ?_
        obtain ⟨rfl, rfl⟩ := Prod.mk.inj heq
        exact ⟨field.2, List.mem_cons_self, rfl⟩
    · exact .inr ⟨text, .tail field htext, rfl⟩

theorem madeOf_ofStep (h : (name, p) ∈ ofStep (own node) node.inputs) :
    p.MadeOf (node.Gives name) := by
  refine madeOf_collapse (fun key q hentry hhead => ?_) h
  refine madeOf_merged (fun value hvalue => ?_) hentry
  refine madeOf_ofInput fun s heq hmark => ?_
  subst heq
  exact .reference hvalue hhead hmark

theorem madeOf_inject (hfields : fields ⊆ contextParams ++ errorParams)
    (h : ∀ name p, (name, p) ∈ params → p.MadeOf (node.Gives name))
    (hmem : (name, p) ∈ inject params fields) : p.MadeOf (node.Gives name) := by
  rcases mem_of_mem_inject hmem with hparam | ⟨text, htext, rfl⟩
  · exact h name p hparam
  · exact .expr (.injected (hfields htext))

theorem madeOf_scriptParams (h : (name, p) ∈ scriptParams node) : p.MadeOf (node.Gives name) :=
  madeOf_inject (List.subset_append_left _ _) (fun _ _ => madeOf_ofStep) h

end Compile

def Graph.Refers (graph : Graph) (field : String) : Prop :=
  ∃ node ∈ graph.nodes, ∃ input s, (input, Json.str s) ∈ node.inputs ∧ Reference.mark <+: s.toList ∧
    Expression.ReadsInput (Expression.ofReference s) field

structure Graph.Declares (graph : Graph) (inputs : Entries Json) : Prop where
  nodup : inputs.names.Nodup
  mem_names_iff : ∀ field, field ∈ inputs.names ↔ field ∈ ["appId", "serviceEnvs"] ∨ field ≠ "" ∧
    graph.Refers field
  lookup_base : ∀ name ∈ ["appId", "serviceEnvs"], inputs.lookup name = InputSchema.base.lookup name
  lookup_text : ∀ name ∈ inputs.names, name ∉ ["appId", "serviceEnvs"] →
    inputs.lookup name = some InputSchema.textInput

namespace InputSchema

variable {graph : Graph} {name : String}

theorem mem_referenced_iff_refers : name ∈ referenced graph ↔ graph.Refers name := by
  rw [mem_referenced_iff, Graph.Refers]
  refine exists_congr fun node => and_congr_right fun _ => ?_
  constructor
  · rintro ⟨⟨input, value⟩, hinput, hfield⟩
    obtain ⟨s, rfl⟩ := Reference.exists_eq_str hfield
    exact ⟨input, s, hinput, Reference.inputField?_eq_some_iff.mp hfield⟩
  · rintro ⟨input, s, hinput, hreads⟩
    exact ⟨_, hinput, Reference.inputField?_eq_some_iff.mpr hreads⟩

theorem lookup_infer (graph : Graph) (name : String) : (infer graph).lookup name =
    (base.lookup name).or (if name ∈ referenced graph ∧ name ≠ "" then some textInput else none) :=
  lookup_foldl base (referenced graph) name

theorem declares_infer (graph : Graph) : graph.Declares (infer graph) where
  nodup := nodup_names_foldl (by decide)
  mem_names_iff := fun field => by
    have hbase : field ∈ ["appId", "serviceEnvs"] ↔ (base.lookup field).isSome = true :=
      (Entries.mem_names_iff : field ∈ base.names ↔ _)
    rw [Entries.mem_names_iff, lookup_infer, hbase, ← mem_referenced_iff_refers]
    by_cases hfield : field ∈ referenced graph ∧ field ≠ ""
    · simp [hfield]
    · rw [if_neg hfield, Option.or_none, and_comm, or_iff_left hfield]
  lookup_base := fun name hname => by
    obtain ⟨spec, hspec⟩ :=
      Option.isSome_iff_exists.mp (Entries.mem_names_iff.mp (show name ∈ base.names from hname))
    rw [lookup_infer, hspec, Option.some_or]
  lookup_text := fun name hname hother => by
    rw [Entries.mem_names_iff, lookup_infer] at hname
    rw [lookup_infer]
    rw [Entries.lookup_eq_none_iff.mpr (show name ∉ base.names from hother),
      Option.none_or] at hname ⊢
    split
    · rfl
    · next hfield => simp [hfield] at hname

end InputSchema

namespace Graph

open Compile Expression

variable {graph : Graph} {registry : Registry} {name : String} {plan : Plan} {node : Node}
  {inputs : Entries Json}

/-- The parameters of a step are values, and expressions that the step gives and that
read declared inputs, and objects of these. -/
def ReadsDeclared (inputs : Entries Json) (node : Node) (params : Entries Param) : Prop :=
  ∀ name p, (name, p) ∈ params → p.MadeOf fun text =>
    node.Gives name text ∧ ∀ field, field ≠ "" → ReadsInput text field → field ∈ inputs.names

theorem mem_base_of_injected {text field : String} (h : (name, text) ∈ contextParams ++ errorParams)
    (hreads : ReadsInput text field) : field ∈ ["appId", "serviceEnvs"] := by
  have hall : ∀ entry ∈ contextParams ++ errorParams,
      ∀ field ∈ Reference.inputField? (.str (String.ofList (Reference.mark ++ entry.2.toList))),
        field ∈ ["appId", "serviceEnvs"] := by
    decide
  refine hall _ h field (Reference.inputField?_eq_some_iff.mpr ⟨by simp, ?_⟩)
  rwa [readsInput_ofReference_iff, Reference.path, String.toList_ofList, List.drop_left,
    String.ofList_toList]

theorem Declares.mem_of_gives {text field : String} (h : graph.Declares inputs)
    (hnode : node ∈ graph.nodes) (hgives : node.Gives name text) (hfield : field ≠ "")
    (hreads : ReadsInput text field) : field ∈ inputs.names := by
  cases hgives with
  | reference hinput _ hmark =>
    exact (h.mem_names_iff field).mpr (.inr ⟨hfield, node, hnode, _, _, hinput, hmark, hreads⟩)
  | injected hinjected =>
    exact (h.mem_names_iff field).mpr (.inl (mem_base_of_injected hinjected hreads))

theorem Declares.readsDeclared {params : Entries Param} (h : graph.Declares inputs)
    (hnode : node ∈ graph.nodes)
    (hmade : ∀ name p, (name, p) ∈ params → p.MadeOf (node.Gives name)) :
    ReadsDeclared inputs node params :=
  fun name p hmem => (hmade name p hmem).mono fun _ hgives =>
    ⟨hgives, fun _ hfield hreads => h.mem_of_gives hnode hgives hfield hreads⟩

theorem inputs_of_compile (h : graph.compile registry name = .ok plan) :
    plan.inputs = InputSchema.infer graph := by
  obtain ⟨_, _, h⟩ := bind_eq_ok_iff.mp h
  cases hhandler : graph.handler <;>
  · simp only [hhandler, bind_eq_ok_iff, pure_eq_ok_iff] at h
    obtain ⟨_, _, rfl⟩ := h
    rfl

/-- A graph declares just the inputs that every run has and those that its references lead to, and
the scripts of its plans read no others, the one that handles failures included. -/
theorem readsDeclared_compile (graph : Graph) : graph.Declares (InputSchema.infer graph) ∧
    ∀ registry name plan, graph.compile registry name = .ok plan →
      plan.inputs = InputSchema.infer graph ∧
      (∀ m ∈ Plan.preorder plan.modules, ∀ path params, m.body = .script path params →
        ∃ node, graph.Origin (stepModule registry graph.ids) m node ∧
          ReadsDeclared plan.inputs node params) ∧
      (∀ m, plan.failure = some m → ∃ node path params, graph.handler = some node ∧
        node ∈ graph.nodes ∧
        m.body = .script path params ∧ ReadsDeclared plan.inputs node params) := by
  have hdeclares := InputSchema.declares_infer graph
  refine ⟨hdeclares, fun registry name plan h => ?_⟩
  rw [inputs_of_compile h]
  refine ⟨rfl, fun m hm path params hbody => ?_, fun m hm => ?_⟩
  · obtain ⟨node, horigin⟩ := exists_origin h hm hbody
    obtain rfl := params_of_stepModule horigin.2 hbody
    exact ⟨node, horigin, hdeclares.readsDeclared horigin.1 fun _ _ => madeOf_scriptParams⟩
  · rcases (compile_eq_ok h).2 with ⟨node, hnode, hfailure⟩ | ⟨_, hnone⟩
    · rw [hm] at hfailure
      obtain ⟨path, hbody⟩ := params_of_failureModule hfailure
      have hmem := (mem_nodes_of_handler hnode).1
      exact ⟨node, path, _, hnode, hmem, hbody, hdeclares.readsDeclared hmem fun _ _ =>
        madeOf_inject (List.subset_append_right _ _) fun _ _ => madeOf_scriptParams⟩
    · cases hnone.symm.trans hm

def greeting : Graph where
  nodes := [
    ⟨"call", "http.call", [], [("body.user.name", .str "$ref:flow_input.user.name"),
      ("host", .str "$ref:flow_input.serviceEnvs.host"), ("none", .str "$ref:flow_input.")], none⟩,
    ⟨"report", "http.call", [], [("reason", .str "$ref:flow_input.reason")], none⟩]
  edges := []
  onError := some "report"

theorem readsDeclared_greeting : ∃ plan, greeting.compile .builtIn "x" = .ok plan ∧
    plan.inputs.names = ["appId", "serviceEnvs", "user", "reason"] ∧
    (∃ m ∈ Plan.preorder plan.modules, ∃ path params node, m.body = .script path params ∧
      ReadsDeclared plan.inputs node params) ∧
    ∃ m node path params, plan.failure = some m ∧ m.body = .script path params ∧
      ReadsDeclared plan.inputs node params := by
  obtain ⟨_, hcompile⟩ := readsDeclared_compile greeting
  obtain ⟨_, hmodules, hfailure⟩ := hcompile .builtIn "x" _ rfl
  obtain ⟨node, _, hreads⟩ := hmodules _ List.mem_cons_self _ _ rfl
  obtain ⟨handler, path, params, _, _, hbody, hreads'⟩ := hfailure _ rfl
  exact ⟨_, rfl, by decide, ⟨_, List.mem_cons_self, _, _, node, rfl, hreads⟩, _, handler, path,
    params, rfl, hbody, hreads'⟩

end Graph

end Flowplan
