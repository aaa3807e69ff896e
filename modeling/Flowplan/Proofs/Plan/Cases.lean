import Flowplan.Proofs.Plan.Nesting

/-!
# Cases of branches

A branch has a case for each text on the edges that leave its condition. In the expression of a
case ids have become module ids, so texts that spell one step in two ways make cases with one
expression, and only the first of these is ever taken.
-/

namespace Flowplan

namespace Expression

open ModuleId

variable {ids : List (List Char)} {id text : List Char} {before : Option Char}

theorem mem_of_longest (h : longest ids = some id) : id ∈ ids := by
  induction ids generalizing id with
  | nil => cases h
  | cons first rest ih =>
    rw [longest] at h
    cases hrest : longest rest with
    | none =>
      simp only [hrest, Option.some_inj] at h
      exact h ▸ List.mem_cons_self
    | some other =>
      simp only [hrest, Option.some_inj] at h
      split at h
      · exact List.mem_cons_of_mem first (h ▸ ih hrest)
      · exact h ▸ List.mem_cons_self

theorem eq_append_of_renamedAt (h : renamedAt ids before text = some id) :
    id ∈ ids ∧ ∃ rest, text = access ++ id ++ rest := by
  rw [renamedAt] at h
  split at h
  · next hstart =>
    obtain ⟨hmem, hstands⟩ := List.mem_filter.mp (mem_of_longest h)
    obtain ⟨tail, rfl⟩ := List.isPrefixOf_iff_prefix.mp (Bool.and_eq_true _ _ ▸ hstart).1
    rw [List.drop_left] at hstands
    obtain ⟨rest, rfl⟩ := List.isPrefixOf_iff_prefix.mp (Bool.and_eq_true _ _ ▸ hstands).1
    exact ⟨hmem, rest, (List.append_assoc _ _ _).symm⟩
  · cases h

theorem map_idChar_rename (ids : List (List Char)) (skipped : Nat) (before : Option Char)
    (text : List Char) :
    (rename ids skipped before text).map idChar = (text.drop skipped).map idChar := by
  induction skipped, before, text using rename.induct ids with
  | case1 skipped before => simp [rename]
  | case2 skipped before c text ih => simpa [rename] using ih
  | case3 before c text id hid ih =>
    obtain ⟨_, rest, htext⟩ := eq_append_of_renamedAt hid
    -- the first character of the access is gone already when the rest of it is skipped
    have hrest : text.drop (access.length + id.length - 1) = rest := by
      have hdrop : (c :: text).drop (access ++ id).length = rest := by rw [htext, List.drop_left]
      have hpos : (access ++ id).length = access.length + id.length - 1 + 1 := by
        rw [List.length_append]
        exact (Nat.sub_add_cancel (Nat.le_add_right_of_le (by decide))).symm
      rwa [hpos, List.drop_succ_cons] at hdrop
    have hofChars : (ofChars id).map idChar = id.map idChar := by
      simp [ofChars, Function.comp_def, idChar_idChar]
    simp only [rename, hid, List.map_append, ih, hrest, hofChars]
    rw [List.drop_zero, htext, List.map_append, List.map_append]
  | case4 before c text hnone ih => simpa [rename, hnone] using ih

theorem rename_eq_self (h : ∀ id ∈ ids, ¬ (access ++ id) <:+: text) :
    rename ids 0 before text = text := by
  induction text generalizing before with
  | nil => rfl
  | cons c text ih =>
    have hnone : renamedAt ids before (c :: text) = none := by
      refine Option.eq_none_iff_forall_not_mem.mpr fun id hid => ?_
      obtain ⟨hmem, rest, htext⟩ := eq_append_of_renamedAt hid
      exact h id hmem (htext ▸ (List.prefix_append _ rest).isInfix)
    have hrest : rename ids 0 (some c) text = text :=
      ih fun id hmem hoccurs => h id hmem (hoccurs.trans (List.suffix_cons c text).isInfix)
    simp [rename, hnone, hrest]

theorem ofId_normalize (expr : String) (ids : List String) :
    ofId (normalize expr ids) = ofId expr := by
  simp only [ofId, normalize, ofChars, String.toList_ofList, map_idChar_rename, List.drop_zero]

def Names (expr id : String) : Prop := (access ++ id.toList) <:+: expr.toList

theorem normalize_eq_self {expr : String} {ids : List String}
    (h : ∀ id ∈ ids, Names expr id → ofId id = id) : normalize expr ids = expr := by
  have hnamed : ∀ id ∈ renamed ids, ¬ (access ++ id) <:+: expr.toList := by
    intro id hid hnames
    obtain ⟨hmem, hne⟩ := List.mem_filter.mp hid
    obtain ⟨name, hname, rfl⟩ := List.mem_map.mp hmem
    refine bne_iff_ne.mp hne ?_
    rw [← String.toList_ofList (l := ofChars name.toList)]
    exact congrArg String.toList (h name hname hnames)
  rw [normalize, rename_eq_self hnamed, String.ofList_toList]

end Expression

def Reachable (exprs : List String) : Prop :=
  ∀ i < exprs.length, ∃ holds : String → Bool, exprs.findIdx? holds = some i

theorem reachable_iff_nodup {exprs : List String} : Reachable exprs ↔ exprs.Nodup := by
  constructor
  · intro h
    refine List.pairwise_iff_getElem.mpr fun i j hi hj hij heq => ?_
    obtain ⟨holds, hfound⟩ := h j hj
    obtain ⟨_, hlater, hearlier⟩ := List.findIdx?_eq_some_iff_getElem.mp hfound
    exact hearlier i hij (heq ▸ hlater)
  · intro hnodup i hi
    refine ⟨(· == exprs[i]), List.findIdx?_eq_some_iff_getElem.mpr ⟨hi, beq_self_eq_true _,
        fun j hji heq => ?_⟩⟩
    exact List.pairwise_iff_getElem.mp hnodup j i (hji.trans hi) hi hji (eq_of_beq heq)

/-- Whether the cases of each branch of a plan have different expressions. -/
def Plan.DistinctCases (plan : Plan) : Prop :=
  ∀ m ∈ plan.allModules, ∀ cases, m.body = .branch cases → (cases.map Case.expr).Nodup

namespace Compile

variable {c : Context} {P : Slot → List Module → Prop} {node : Node} {m : Module}
  {cases : List Case}

theorem Built.exists_cases (h : Built c P node m) (hkind : node.kind = StepType.condition) :
    ∃ cases, m.body = .branch cases ∧
      cases.map Case.expr =
        (Scope.expressions c.edges node.id).map (Expression.normalize · c.ids) := by
  cases h with
  | branch _ hcases =>
    refine ⟨_, rfl, ?_⟩
    rw [← List.forall₂_eq_eq_eq, List.forall₂_map_left_iff, List.forall₂_map_right_iff]
    exact hcases.flip.imp fun _ _ hcase => hcase.1
  | loop hloop _ => exact absurd (hkind.symm.trans hloop) (by decide)
  | step hcondition _ _ _ => exact absurd hkind hcondition

theorem Built.cases_eq_nil (h : Built c P node m) (hkind : node.kind ≠ StepType.condition)
    (hbody : m.body = .branch cases) : cases = [] := by
  cases h with
  | branch hcondition _ => exact absurd hcondition hkind
  | loop _ _ => cases hbody
  | step _ _ _ hbodies =>
    obtain ⟨id, body, directives⟩ := m
    obtain rfl : body = .branch cases := hbody
    exact List.map_eq_nil_iff.mp hbodies

end Compile

namespace Graph

open Compile

variable {registry : Registry} {graph : Graph} {name : String} {plan : Plan} {m : Module}
  {cases : List Case}

/-- Whether the texts on the edges of each condition with a branch
stay different when ids become module ids. -/
def TellsApart (registry : Registry) (graph : Graph) : Prop :=
  ∀ path node, graph.Stands registry path node → node.kind = StepType.condition →
    ∀ expr ∈ Scope.expressions graph.edges node.id, ∀ other ∈ Scope.expressions graph.edges node.id,
      Expression.normalize expr graph.ids = Expression.normalize other graph.ids → expr = other

theorem mem_allModules_of_branch (h : graph.compile registry name = .ok plan)
    (hbody : m.body = .branch cases) : m ∈ plan.allModules ↔ m ∈ Plan.preorder plan.modules := by
  have hfailure : m ∉ Plan.preorder plan.failure.toList := by
    rcases (compile_eq_ok h).2 with ⟨node, _, hfailure⟩ | ⟨_, hfailure⟩
    · rcases failureModule_eq_ok hfailure with hfailure | ⟨path, params, directives, hfailure⟩
      · simp [hfailure, Plan.preorder]
      · rw [hfailure]
        intro hmem
        obtain rfl : m = .mk (ModuleId.ofId node.id) (.script path params) directives := by
          simpa [Plan.preorder, Plan.preorderOf, Plan.preorderBody] using hmem
        cases hbody
    · simp [hfailure, Plan.preorder]
  rw [Plan.allModules, Plan.preorder_append, List.mem_append, or_iff_left hfailure]

theorem distinctCases_iff_tellsApart (h : graph.compile registry name = .ok plan) :
    plan.DistinctCases ↔ graph.TellsApart registry := by
  have hinj : ∀ id,
      ((Scope.expressions graph.edges id).map (Expression.normalize · graph.ids)).Nodup ↔
        ∀ expr ∈ Scope.expressions graph.edges id, ∀ other ∈ Scope.expressions graph.edges id,
          Expression.normalize expr graph.ids = Expression.normalize other graph.ids →
          expr = other :=
    fun id => List.nodup_map_iff_inj_on (Scope.nodup_expressions graph.edges id)
  constructor
  · intro hdistinct path node hstands hkind
    have hmodule : hasModule registry node = true := by simp [hasModule, hkind]
    obtain ⟨m, hm, hbuilt⟩ := (compiles h).exists_module_of_stands hstands hmodule
    obtain ⟨cases, hbody, hexprs⟩ := hbuilt.exists_cases hkind
    have hnodup := hdistinct m ((mem_allModules_of_branch h hbody).mpr hm) cases hbody
    exact (hinj node.id).mp (hexprs ▸ hnodup)
  · intro hapart m hm cases hbody
    obtain ⟨path, node, hstands, _, hbuilt⟩ :=
      (compiles h).exists_stands ((mem_allModules_of_branch h hbody).mp hm)
    by_cases hkind : node.kind = StepType.condition
    · obtain ⟨cases', hbody', hexprs⟩ := hbuilt.exists_cases hkind
      obtain rfl : cases = cases' := Body.branch.inj (hbody.symm.trans hbody')
      exact hexprs ▸ (hinj node.id).mpr (hapart path node hstands hkind)
    · simp [hbuilt.cases_eq_nil hkind hbody]

/-- The cases of a branch are different, and so each one can be taken, exactly where the
texts on the edges of each condition with a branch stay different when ids become module
ids. They do if they differ in what module ids are made of, and in a graph whose texts
name steps only by ids that are module ids. -/
theorem distinctCases_iff (h : graph.compile registry name = .ok plan) :
    (plan.DistinctCases ↔
      ∀ m ∈ plan.allModules, ∀ cases, m.body = .branch cases → Reachable (cases.map Case.expr)) ∧
    (plan.DistinctCases ↔ graph.TellsApart registry) ∧
    (∀ expr other, Expression.normalize expr graph.ids = Expression.normalize other graph.ids →
      ModuleId.ofId expr = ModuleId.ofId other) ∧
    ((∀ edge ∈ graph.edges, ∀ expr, edge.branch? = some expr → ∀ id ∈ graph.ids,
      Expression.Names expr id →
      ModuleId.ofId id = id) → plan.DistinctCases) := by
  refine ⟨?_, distinctCases_iff_tellsApart h, ?_, ?_⟩
  · simp only [Plan.DistinctCases, reachable_iff_nodup]
  · intro expr other heq
    rw [← Expression.ofId_normalize expr graph.ids, heq, Expression.ofId_normalize]
  · intro hnames
    have hself : ∀ id, ∀ expr ∈ Scope.expressions graph.edges id,
        Expression.normalize expr graph.ids = expr := by
      intro id expr hexpr
      obtain ⟨edge, he, _, hbranch⟩ := Scope.mem_expressions_iff.mp hexpr
      exact Expression.normalize_eq_self (hnames edge he expr hbranch)
    refine (distinctCases_iff_tellsApart h).mpr fun path node _ _ expr hexpr other hother heq => ?_
    rwa [hself node.id expr hexpr, hself node.id other hother] at heq

def lookedUp (found lost : String) : Graph where
  nodes := [
    .bare "fetch-lead" "http.call", .bare "check" StepType.condition, .bare "send" "http.call",
    .bare "notify" "http.call"]
  edges := [
    ⟨"fetch-lead", "check", none⟩, ⟨"check", "send", some found⟩, ⟨"check", "notify", some lost⟩]
  onError := none

theorem distinctCases_lookedUp :
    ∃ plan,
      (lookedUp "results.fetch-lead.found" "results.fetch-lead.lost").compile .builtIn "x" =
        .ok plan ∧
      plan.DistinctCases := by
  have hdistinct :=
    @distinctCases_iff .builtIn
      (lookedUp "results.fetch-lead.found" "results.fetch-lead.lost") "x" _ rfl
  refine ⟨_, rfl, hdistinct.2.1.mpr fun path node hstands => ?_⟩
  have hnode := hstands.mem
  clear hstands
  revert node
  decide

theorem repeatedCase_lookedUp :
    (lookedUp "results.fetch-lead.found" "results.fetch_lead.found").isValid .builtIn = true ∧
    ∃ plan,
      (lookedUp "results.fetch-lead.found" "results.fetch_lead.found").compile .builtIn "x" =
        .ok plan ∧
      ¬ plan.DistinctCases := by
  refine ⟨by decide, _, rfl, fun hdistinct => ?_⟩
  have hnodup := hdistinct _ (.tail _ (.head _)) _ rfl
  revert hnodup
  decide

end Graph

end Flowplan
