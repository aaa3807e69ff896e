import Flowplan.Proofs.Graph.LeftOut
import Flowplan.Proofs.Plan.Compiled
import Mathlib.Data.Set.Basic

/-!
# What belongs to a scope

A scope is told by what belongs to it, which is said of a step by the steps that lead
to it. One pass over the steps finds the one set that keeps to this, in whatever
order they come, as long as edges go forward.
-/

namespace Flowplan

namespace Scope

/-- What belongs to a branch of the condition `id` beside some ids: what the branch leads to
directly, and what only those ids lead to, unless it runs after all branches. -/
def InBranch (edges : List Edge) (id expr : String) (members : Set String) (n : String) : Prop :=
  n ≠ id ∧ (∀ edge ∈ edges, edge.source = id → edge.target = n → edge.branch? ≠ none) ∧
    ((∃ edge ∈ edges, edge.source = id ∧ edge.target = n ∧ edge.branch? = some expr) ∨
      (∃ edge ∈ edges, edge.target = n) ∧ ∀ edge ∈ edges, edge.target = n → edge.source ∈ members)

/-- What belongs to the body of the loop `id` beside some ids: what the loop leads to
directly, and what only it and those ids lead to. -/
def InLoop (edges : List Edge) (id : String) (members : Set String) (n : String) : Prop :=
  n ≠ id ∧ ((∃ edge ∈ edges, edge.source = id ∧ edge.target = n) ∨
    (∃ edge ∈ edges, edge.target = n) ∧ ∀ edge ∈ edges, edge.target = n → edge.source = id ∨
      edge.source ∈ members)

/-- A set is made of the ids of a list that belong beside the set itself. -/
def Solves (ids : List String) (Belongs : Set String → String → Prop) (members : Set String) :
    Prop := ∀ n, n ∈ members ↔ n ∈ ids ∧ Belongs members n

/-- A test of what belongs, which asks only for the steps that lead to a step. -/
structure Decides (edges : List Edge) (belongs : List String → String → Bool)
    (Belongs : Set String → String → Prop) : Prop where
  iff : ∀ members n, belongs members n = true ↔ Belongs {m | m ∈ members} n
  congr : ∀ {members members' : Set String} {n : String},
    (∀ edge ∈ edges, edge.target = n → (edge.source ∈ members ↔ edge.source ∈ members')) →
      (Belongs members n ↔ Belongs members' n)

variable {edges : List Edge} {ids : List String} {belongs : List String → String → Bool}
  {Belongs : Set String → String → Prop} {members members' : Set String} {id expr : String}

theorem decides_branch (edges : List Edge) (id expr : String) :
    Decides edges (fun members n => n != id && !(afterBranches edges id).contains n &&
      ((branchRoots edges id expr).contains n || fedFrom edges members.contains n))
        (InBranch edges id expr) where
  iff members n := by
    simp only [InBranch, Bool.and_eq_true, Bool.or_eq_true, bne_iff_ne, Bool.not_eq_true',
      fedFrom_iff, List.contains_eq_mem, decide_eq_false_iff_not, decide_eq_true_eq, afterBranches,
      branchRoots, List.mem_map, List.mem_filter, beq_iff_eq, Option.isNone_iff_eq_none,
      Set.mem_ofPred_eq]
    grind
  congr h := by
    simp only [InBranch]
    grind

theorem decides_loop (edges : List Edge) (id : String) :
    Decides edges (fun members n => n != id
      && ((Edge.target <$> edges.filter (·.source == id)).contains n ||
      fedFrom edges (fun source => source == id || members.contains source) n))
        (InLoop edges id) where
  iff members n := by
    simp only [InLoop, Bool.and_eq_true, Bool.or_eq_true, bne_iff_ne, fedFrom_iff,
      List.contains_iff_mem, List.map_eq_map, List.mem_map, List.mem_filter, beq_iff_eq,
      Set.mem_ofPred_eq]
    grind
  congr h := by
    simp only [InLoop]
    grind

section Pass

variable (hdecides : Decides edges belongs Belongs) (hnodup : ids.Nodup)
  (hforward : Forward edges ids)

include hdecides hnodup hforward

theorem solves_collect : Solves ids Belongs {n | n ∈ collect belongs ids} := by
  intro n
  have hturn : ∀ done rest, ids = done ++ n :: rest →
      (belongs (collect belongs done) n = true ↔ Belongs {m | m ∈ collect belongs ids} n) := by
    rintro done rest rfl
    rw [hdecides.iff]
    refine hdecides.congr fun edge he htarget =>
      ⟨fun hsource => collect_subset belongs done _ hsource, ?_⟩
    intro hsource
    have hbefore := hforward edge he (mem_of_mem_collect hsource) (by simp [htarget])
    exact mem_collect_of_mem_append hnodup hsource ((htarget ▸ hbefore).mem_of_append hnodup)
  constructor
  · intro hn
    obtain ⟨done, rest, heq, hbelongs⟩ := exists_of_mem_collect hn
    exact ⟨mem_of_mem_collect hn, (hturn done rest heq).mp hbelongs⟩
  · rintro ⟨hn, hbelongs⟩
    obtain ⟨done, rest, heq⟩ := List.append_of_mem hn
    have hjoins := mem_collect_append_cons rest ((hturn done rest heq).mpr hbelongs)
    exact heq ▸ hjoins

/-- Along the steps, those before a step tell whether it belongs. -/
theorem Solves.unique (h : Solves ids Belongs members) (h' : Solves ids Belongs members') :
    members = members' := by
  have hagree : ∀ n ∈ ids, (n ∈ members ↔ n ∈ members') := by
    refine before_induction hnodup fun n hn ih => ?_
    rw [h n, h' n]
    refine and_congr_right fun _ => hdecides.congr fun edge he htarget => ?_
    by_cases hsource : edge.source ∈ ids
    · exact ih edge.source (htarget ▸ hforward edge he hsource (htarget ▸ hn))
    · exact iff_of_false (fun hmem => hsource ((h edge.source).mp hmem).1)
        fun hmem => hsource ((h' edge.source).mp hmem).1
  ext n
  by_cases hn : n ∈ ids
  · exact hagree n hn
  · exact iff_of_false (fun hmem => hn ((h n).mp hmem).1) fun hmem => hn ((h' n).mp hmem).1

theorem solves_iff : Solves ids Belongs members ↔ members = {n | n ∈ collect belongs ids} := by
  have hpass := solves_collect hdecides hnodup hforward
  constructor
  · exact fun h => h.unique hdecides hnodup hforward hpass
  · rintro rfl
    exact hpass

end Pass

theorem solves_congr {ids' : List String} (h : ids'.Perm ids) :
    Solves ids' Belongs members ↔ Solves ids Belongs members := by
  simp only [Solves, h.mem_iff]

end Scope

namespace Graph

variable {registry : Registry} {graph : Graph} {ordered : List Node}

/-- The steps of a graph, perhaps without the one that handles
failures, in an order in which edges go forward. -/
structure Arranges (graph : Graph) (ordered : List Node) : Prop where
  nodes : ordered.Perm graph.nodes ∨
    ∃ handler, graph.onError = some handler ∧ ordered.Perm (graph.nodes.filter (·.id != handler))
  forward : Scope.Forward graph.edges (ordered.map Node.id)

theorem Arranges.nodup (h : graph.Arranges ordered) (hvalid : graph.isValid registry = true) :
    (ordered.map Node.id).Nodup := by
  rcases h.nodes with hnodes | ⟨handler, _, hnodes⟩
  · exact (hnodes.map Node.id).nodup_iff.mpr (nodup_ids hvalid)
  · exact (hnodes.map Node.id).nodup_iff.mpr
      ((nodup_ids hvalid).sublist (List.filter_sublist.map Node.id))

theorem arranges_mainOrder (hvalid : graph.isValid registry = true) :
    graph.Arranges graph.mainOrder where
  nodes := by
    have hperm : (topologicalOrder graph.nodes graph.edges).Perm graph.nodes :=
      (topologicalOrder_perm_iff (nodup_ids hvalid)).mpr fun _ => mem_topologicalOrder hvalid
    rw [mainOrder]
    cases hhandler : graph.handlerId with
    | none => exact .inl hperm
    | some handler =>
      exact .inr ⟨handler, (Option.filter_eq_some_iff.mp hhandler).1,
        hperm.filter (·.id != handler)⟩
  forward := (sorted hvalid).forward

theorem Arranges.solves_iff (h : graph.Arranges ordered) (hvalid : graph.isValid registry = true)
    {belongs : List String → String → Bool} {Belongs : Set String → String → Prop}
    {members : Set String} (hdecides : Scope.Decides graph.edges belongs Belongs) :
    Scope.Solves (ordered.map Node.id) Belongs members ↔
      members = {n | n ∈ Scope.collect belongs (ordered.map Node.id)} :=
  Scope.solves_iff hdecides (h.nodup hvalid) h.forward

theorem Arranges.mem_collect_iff {other : List Node} (h : graph.Arranges ordered)
    (hother : graph.Arranges other) (hperm : other.Perm ordered)
    (hvalid : graph.isValid registry = true) {belongs : List String → String → Bool}
    {Belongs : Set String → String → Prop} (hdecides : Scope.Decides graph.edges belongs Belongs)
    (n : String) :
    n ∈ Scope.collect belongs (other.map Node.id) ↔
      n ∈ Scope.collect belongs (ordered.map Node.id) := by
  have hsolves :=
    (Scope.solves_congr (hperm.map Node.id)).mp ((hother.solves_iff hvalid hdecides).mpr rfl)
  exact Set.ext_iff.mp ((h.solves_iff hvalid hdecides).mp hsolves) n

/-- One pass finds whole scopes. The branches of a step are told by the texts on its edges, and
what the pass finds for one of them, or for the body of a loop, is the one set of steps that belong
beside each other; so the order of the steps does not matter. -/
theorem scopes_of_arranges (hvalid : graph.isValid registry = true) (h : graph.Arranges ordered)
    (id : String) : (∀ expr, expr ∈ Scope.expressions graph.edges id ↔
      ∃ edge ∈ graph.edges, edge.source = id ∧ edge.branch? = some expr) ∧
    (∀ expr members,
      Scope.Solves (ordered.map Node.id) (Scope.InBranch graph.edges id expr) members ↔
        members = {n | n ∈ Scope.branch graph.edges ordered id expr}) ∧
    (∀ members, Scope.Solves (ordered.map Node.id) (Scope.InLoop graph.edges id) members ↔
      members = {n | n ∈ Scope.loop graph.edges ordered id}) ∧
    ∀ other, graph.Arranges other → other.Perm ordered →
      (∀ expr n, n ∈ Scope.branch graph.edges other id expr ↔
        n ∈ Scope.branch graph.edges ordered id expr) ∧
        ∀ n, n ∈ Scope.loop graph.edges other id ↔ n ∈ Scope.loop graph.edges ordered id := by
  have hbranch := fun expr => Scope.decides_branch graph.edges id expr
  have hloop := Scope.decides_loop graph.edges id
  refine ⟨fun _ => Scope.mem_expressions_iff, fun expr _ => h.solves_iff hvalid (hbranch expr),
    fun _ => h.solves_iff hvalid hloop, fun other hother hperm => ⟨fun expr => ?_, ?_⟩⟩
  · exact h.mem_collect_iff hother hperm hvalid (hbranch expr)
  · exact h.mem_collect_iff hother hperm hvalid hloop

def meeting : Graph where
  nodes := [.bare "check" StepType.condition, plainCall "left", plainCall "right", plainCall "join",
    plainCall "last", plainCall "alert"]
  edges := [⟨"check", "left", some "flow_input.a"⟩, ⟨"check", "right", some "flow_input.a"⟩,
    ⟨"left", "join", none⟩, ⟨"right", "join", none⟩, ⟨"check", "last", none⟩]
  onError := some "alert"

def meetingBackward : List Node :=
  [.bare "check" StepType.condition, plainCall "last", plainCall "right", plainCall "left",
    plainCall "join"]

theorem scopes_meeting : meeting.isValid .builtIn = true ∧ meeting.Arranges meetingBackward ∧
    meetingBackward ≠ meeting.mainOrder ∧
    Scope.Solves (meetingBackward.map Node.id) (Scope.InBranch meeting.edges "check" "flow_input.a")
      {n | n ∈ ["left", "right", "join"]} ∧
    ∀ n, n ∈ Scope.branch meeting.edges meeting.mainOrder "check" "flow_input.a" ↔
      n ∈ ["left", "right", "join"] := by
  have hvalid : meeting.isValid .builtIn = true := by decide
  have harranges : meeting.Arranges meetingBackward :=
    ⟨.inr ⟨"alert", rfl, by decide⟩, by unfold Scope.Forward; decide⟩
  obtain ⟨_, hbranch, _, horders⟩ := scopes_of_arranges hvalid harranges "check"
  have hfound : ∀ n, n ∈ Scope.branch meeting.edges meetingBackward "check" "flow_input.a" ↔
      n ∈ ["left", "right", "join"] := by
    have heq : Scope.branch meeting.edges meetingBackward "check" "flow_input.a" =
        ["right", "left", "join"] := by
      decide
    intro n
    rw [heq]
    exact (List.Perm.swap "left" "right" ["join"]).mem_iff
  refine ⟨hvalid, harranges, by decide, (hbranch _ _).mpr ?_, fun n => ?_⟩
  · exact Set.ext fun n => (hfound n).symm
  · exact ((horders _ (arranges_mainOrder hvalid) (by decide)).1 _ n).trans (hfound n)

end Graph

end Flowplan
