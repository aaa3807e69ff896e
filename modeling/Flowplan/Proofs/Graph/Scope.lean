import Flowplan.Graph.Order
import Flowplan.Proofs.Precedence
import Mathlib.Data.List.Induction

/-!
# Scopes

One pass over the steps in order: a step joins a scope for what has joined before it, so the steps
of a scope come after the construct that they belong to.
-/

namespace Flowplan.Scope

theorem collect_snoc (belongs : List String → String → Bool) (ids : List String) (id : String) :
    collect belongs (ids ++ [id]) =
      if !(collect belongs ids).contains id && belongs (collect belongs ids) id then
        collect belongs ids ++ [id]
      else collect belongs ids := by
  simp [collect]

theorem collect_subset (belongs : List String → String → Bool) (done rest : List String) :
    collect belongs done ⊆ collect belongs (done ++ rest) := by
  induction rest using List.reverseRecOn with
  | nil => simp
  | append_singleton rest id ih =>
    rw [← List.append_assoc, collect_snoc]
    split
    · exact fun other ho => List.mem_append_left [id] (ih ho)
    · exact ih

theorem exists_of_mem_collect {belongs : List String → String → Bool} {ids : List String}
    {id : String} (h : id ∈ collect belongs ids) : ∃ done rest, ids = done ++ id :: rest ∧
      belongs (collect belongs done) id = true := by
  induction ids using List.reverseRecOn with
  | nil => simp [collect] at h
  | append_singleton ids other ih =>
    have hold : id ∈ collect belongs ids → ∃ done rest, ids ++ [other] = done ++ id :: rest ∧
        belongs (collect belongs done) id = true := by
      intro hid
      obtain ⟨done, rest, rfl, hbelongs⟩ := ih hid
      exact ⟨done, rest ++ [other], by simp, hbelongs⟩
    rw [collect_snoc] at h
    split at h
    · next hjoins =>
      rcases List.mem_append.mp h with h | h
      · exact hold h
      · obtain rfl := List.mem_singleton.mp h
        exact ⟨ids, [], rfl, (Bool.and_eq_true _ _ ▸ hjoins).2⟩
    · exact hold h

theorem mem_of_mem_collect {belongs : List String → String → Bool} {ids : List String} {id : String}
    (h : id ∈ collect belongs ids) : id ∈ ids := by
  obtain ⟨done, rest, rfl, _⟩ := exists_of_mem_collect h
  simp

theorem mem_collect_of_mem_append {belongs : List String → String → Bool} {done rest : List String}
    {id : String} (hnodup : (done ++ rest).Nodup) (h : id ∈ collect belongs (done ++ rest))
    (hid : id ∈ done) : id ∈ collect belongs done := by
  induction rest using List.reverseRecOn with
  | nil => simpa using h
  | append_singleton rest other ih =>
    rw [← List.append_assoc] at h hnodup
    rw [collect_snoc] at h
    have hother : id ≠ other := by
      rintro rfl
      have := (List.nodup_append.mp hnodup).2.2 id (List.mem_append_left rest hid) id (by simp)
      contradiction
    apply ih (List.nodup_append.mp hnodup).1
    split at h
    · simpa [hother] using h
    · exact h

theorem mem_collect_append_cons {belongs : List String → String → Bool} {done : List String}
    {id : String} (rest : List String) (h : belongs (collect belongs done) id = true) :
    id ∈ collect belongs (done ++ id :: rest) := by
  have hjoins : id ∈ collect belongs (done ++ [id]) := by
    by_cases hmember : id ∈ collect belongs done
    · exact collect_subset belongs done [id] hmember
    · simp [collect_snoc, hmember, h]
  simpa using collect_subset belongs (done ++ [id]) rest hjoins

theorem mem_collect_of_fed {belongs : List String → String → Bool} {ids : List String}
    {edges : List Edge} {id : String} (hnodup : ids.Nodup) (hid : id ∈ ids)
    (hforward : ∀ edge ∈ edges, edge.target = id → edge.source ∈ ids → Before ids edge.source id)
    (hfed : ∀ edge ∈ edges, edge.target = id → edge.source ∈ collect belongs ids)
    (hbelongs : ∀ members, (∀ edge ∈ edges, edge.target = id → edge.source ∈ members) →
      belongs members id = true) : id ∈ collect belongs ids := by
  obtain ⟨done, rest, rfl⟩ := List.append_of_mem hid
  apply mem_collect_append_cons
  apply hbelongs
  intro edge he htarget
  have hsource := hfed edge he htarget
  have hdone := (hforward edge he htarget (mem_of_mem_collect hsource)).mem_of_append hnodup
  exact mem_collect_of_mem_append hnodup hsource hdone

def Forward (edges : List Edge) (ids : List String) : Prop :=
  ∀ edge ∈ edges, edge.source ∈ ids → edge.target ∈ ids → Before ids edge.source edge.target

theorem fedFrom_iff {edges : List Edge} {inside : String → Bool} {id : String} :
    fedFrom edges inside id = true ↔
      (∃ edge ∈ edges, edge.target = id) ∧ ∀ edge ∈ edges, edge.target = id →
      inside edge.source = true := by
  simp only [fedFrom, Bool.and_eq_true, Bool.not_eq_true', List.all_eq_true,
    List.mem_filter, beq_iff_eq, List.isEmpty_eq_false_iff_exists_mem, and_imp]

theorem exists_edge_of_fedFrom {edges : List Edge} {inside : String → Bool} {id : String}
    (h : fedFrom edges inside id = true) :
    ∃ edge ∈ edges, edge.target = id ∧ inside edge.source = true := by
  obtain ⟨⟨edge, he, htarget⟩, hall⟩ := fedFrom_iff.mp h
  exact ⟨edge, he, htarget, hall edge he htarget⟩

theorem fedFrom_of_forall {edges : List Edge} {inside : String → Bool} {id : String}
    (hentered : ∃ edge ∈ edges, edge.target = id)
    (h : ∀ edge ∈ edges, edge.target = id → inside edge.source = true) :
    fedFrom edges inside id = true := fedFrom_iff.mpr ⟨hentered, h⟩

section Membership

variable {edges : List Edge} {ordered : List Node} {id member : String}

theorem not_mem_branch (expr : String) : id ∉ branch edges ordered id expr := by
  intro h
  obtain ⟨_, _, _, hbelongs⟩ := exists_of_mem_collect h
  simp at hbelongs

theorem not_mem_loop : id ∉ loop edges ordered id := by
  intro h
  obtain ⟨_, _, _, hbelongs⟩ := exists_of_mem_collect h
  simp at hbelongs

theorem exists_edge_of_mem_branch {expr : String} (h : member ∈ branch edges ordered id expr) :
    ∃ edge ∈ edges, edge.target = member ∧
      ((edge.source = id ∧ edge.branch? = some expr) ∨
        edge.source ∈ branch edges ordered id expr) := by
  obtain ⟨done, rest, heq, hbelongs⟩ := exists_of_mem_collect h
  simp only [branchRoots, Bool.and_eq_true, Bool.or_eq_true, List.contains_iff_mem, List.mem_map,
    List.mem_filter, beq_iff_eq] at hbelongs
  rcases hbelongs.2 with ⟨edge, ⟨he, hstart⟩, rfl⟩ | hfed
  · exact ⟨edge, he, rfl, .inl hstart⟩
  · obtain ⟨edge, he, rfl, hinside⟩ := exists_edge_of_fedFrom hfed
    refine ⟨edge, he, rfl, .inr ?_⟩
    rw [branch, heq]
    exact collect_subset _ done _ (List.contains_iff_mem.mp hinside)

theorem exists_edge_of_mem_loop (h : member ∈ loop edges ordered id) :
    ∃ edge ∈ edges, edge.target = member ∧
      (edge.source = id ∨ edge.source ∈ loop edges ordered id) := by
  obtain ⟨done, rest, heq, hbelongs⟩ := exists_of_mem_collect h
  simp only [List.map_eq_map, Bool.and_eq_true, Bool.or_eq_true, List.contains_iff_mem,
    List.mem_map, List.mem_filter, beq_iff_eq] at hbelongs
  rcases hbelongs.2 with ⟨edge, ⟨he, hsource⟩, rfl⟩ | hfed
  · exact ⟨edge, he, rfl, .inl hsource⟩
  · obtain ⟨edge, he, rfl, hinside⟩ := exists_edge_of_fedFrom hfed
    simp only [Bool.or_eq_true, beq_iff_eq, List.contains_iff_mem] at hinside
    rcases hinside with hsource | hmember
    · exact ⟨edge, he, rfl, .inl hsource⟩
    · refine ⟨edge, he, rfl, .inr ?_⟩
      rw [loop, heq]
      exact collect_subset _ done _ hmember

theorem notMem_afterBranches_of_mem_branch {expr : String}
    (h : member ∈ branch edges ordered id expr) : member ∉ afterBranches edges id := by
  obtain ⟨_, _, _, hbelongs⟩ := exists_of_mem_collect h
  simp only [Bool.and_eq_true, Bool.not_eq_true', List.contains_eq_mem,
    decide_eq_false_iff_not] at hbelongs
  exact hbelongs.1.2

theorem target_mem_branch {edge : Edge} {expr : String} (he : edge ∈ edges)
    (hsource : edge.source = id) (hexpr : edge.branch? = some expr)
    (hmem : edge.target ∈ ordered.map Node.id) (hne : edge.target ≠ id)
    (hafter : edge.target ∉ afterBranches edges id) : edge.target ∈
      branch edges ordered id expr := by
  have hroot : edge.target ∈ branchRoots edges id expr :=
    List.mem_map_of_mem (List.mem_filter.mpr ⟨he, by simp [hsource, hexpr]⟩)
  obtain ⟨done, rest, heq⟩ := List.append_of_mem hmem
  rw [branch, heq]
  apply mem_collect_append_cons
  simp [hroot, hne, hafter]

theorem target_mem_loop {edge : Edge} (he : edge ∈ edges) (hsource : edge.source = id)
    (hmem : edge.target ∈ ordered.map Node.id) (hne : edge.target ≠ id) :
    edge.target ∈ loop edges ordered id := by
  have hroot : edge.target ∈ Edge.target <$> edges.filter (·.source == id) :=
    List.mem_map_of_mem (List.mem_filter.mpr ⟨he, by simp [hsource]⟩)
  obtain ⟨done, rest, heq⟩ := List.append_of_mem hmem
  rw [loop, heq]
  apply mem_collect_append_cons
  simp only [List.contains_iff_mem.mpr hroot, Bool.true_or, Bool.and_true]
  exact bne_iff_ne.mpr hne

end Membership

theorem nodup_expressions (edges : List Edge) (id : String) : (expressions edges id).Nodup := by
  rw [expressions]
  induction (edges.filter (·.source == id)).filterMap Edge.branch? using List.reverseRecOn with
  | nil => simp
  | append_singleton exprs expr ih =>
    rw [List.foldl_append]
    simp only [List.foldl_cons, List.foldl_nil]
    split
    · exact ih
    · next hnew =>
      rw [List.nodup_append]
      refine ⟨ih, List.nodup_singleton expr, ?_⟩
      rintro other ho _ hexpr rfl
      simp_all

theorem mem_expressions_iff {edges : List Edge} {id expr : String} :
    expr ∈ expressions edges id ↔ ∃ edge ∈ edges, edge.source = id ∧ edge.branch? = some expr := by
  have hfound : expr ∈ expressions edges id ↔
      expr ∈ (edges.filter (·.source == id)).filterMap Edge.branch? := by
    rw [expressions]
    induction (edges.filter (·.source == id)).filterMap Edge.branch? using List.reverseRecOn with
    | nil => simp
    | append_singleton exprs other ih =>
      rw [List.foldl_append, List.mem_append, List.mem_singleton, ← ih]
      simp only [List.foldl_cons, List.foldl_nil]
      split <;> grind
  simp only [hfound, List.mem_filterMap, List.mem_filter, beq_iff_eq, and_assoc]

theorem mem_expressions_of_edge {edges : List Edge} {edge : Edge} {expr : String}
    (he : edge ∈ edges) (hexpr : edge.branch? = some expr) : expr ∈ expressions edges edge.source :=
  mem_expressions_iff.mpr ⟨edge, he, rfl, hexpr⟩

end Flowplan.Scope
