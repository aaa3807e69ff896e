import Flowplan.Proofs.Graph.Exploration
import Mathlib.Order.Bounds.Basic

/-!
# Ties

The topological order goes from rank to rank, the rank of a step being the length of a
longest way to it. Steps of a rank come in the order in which the last edges from the rank
before lead to them, which need not be the author's.
-/

namespace Flowplan

open Relation Flowplan.Cycle

inductive Trail (edges : List Edge) : Nat → String → Prop
  | start (id) : Trail edges 0 id
  | step {n edge} : edge ∈ edges → Trail edges n edge.source → Trail edges (n + 1) edge.target

def longestTrail (edges : List Edge) : Nat → String → Nat
  | 0, _ => 0
  | bound + 1, id =>
    ((edges.filter (·.target == id)).map fun edge =>
      longestTrail edges bound edge.source + 1).foldr max 0

/-- The length of a longest way to a step. Without a cycle no way is longer than there are steps. -/
def rank (nodes : List Node) (edges : List Edge) (id : String) : Nat :=
  longestTrail edges nodes.length id

def peers (nodes : List Node) (edges : List Edge) (n : Nat) : List String :=
  (nodes.map Node.id).filter (rank nodes edges · == n)

/-- The steps of a rank that edges from some steps lead to, each where
the last one of these edges does. -/
def heirs (nodes : List Node) (edges : List Edge) (n : Nat) (ids : List String) : List String :=
  (ids.flatMap (Edge.successors edges)).dedup.filter (rank nodes edges · == n)

def KeepsTies (nodes : List Node) (edges : List Edge) : Prop :=
  ∀ a b, rank nodes edges a = rank nodes edges b → Before (nodes.map Node.id) a b →
    Before ((topologicalOrder nodes edges).map Node.id) a b

theorem isGreatest_foldr_max (ns : List Nat) :
    IsGreatest {n | n = 0 ∨ n ∈ ns} (ns.foldr max 0) := by
  induction ns with
  | nil => simp [IsGreatest, upperBounds]
  | cons n ns ih =>
    obtain ⟨hmem, hle⟩ := ih
    rw [List.foldr_cons]
    constructor
    · rcases max_choice n (ns.foldr max 0) with h | h <;> grind
    · rintro m (rfl | hm)
      · exact Nat.zero_le _
      · rcases List.mem_cons.mp hm with rfl | hm
        · exact Nat.le_max_left _ _
        · exact (hle (.inr hm)).trans (Nat.le_max_right _ _)

theorem isGreatest_longestTrail (edges : List Edge) (bound : Nat) (id : String) :
    IsGreatest {n | n ≤ bound ∧ Trail edges n id} (longestTrail edges bound id) := by
  induction bound generalizing id with
  | zero => exact ⟨⟨Nat.le_refl 0, .start id⟩, fun _ h => h.1⟩
  | succ bound ih =>
    obtain ⟨hmem, hle⟩ := isGreatest_foldr_max
      ((edges.filter (·.target == id)).map fun edge => longestTrail edges bound edge.source + 1)
    simp only [Set.mem_ofPred_eq, List.mem_map, List.mem_filter, beq_iff_eq] at hmem
    constructor
    · rcases hmem with hzero | ⟨edge, ⟨he, rfl⟩, heq⟩
      · rw [longestTrail, hzero]
        exact ⟨Nat.zero_le _, .start id⟩
      · rw [longestTrail, ← heq]
        obtain ⟨hbound, htrail⟩ := (ih edge.source).1
        exact ⟨Nat.succ_le_succ hbound, .step he htrail⟩
    · rintro n ⟨hn, htrail⟩
      cases htrail with
      | start => exact Nat.zero_le _
      | @step n edge he htrail =>
        have hprior := (ih edge.source).2 ⟨Nat.le_of_succ_le_succ hn, htrail⟩
        refine (Nat.succ_le_succ hprior).trans (hle (.inr ?_))
        exact List.mem_map_of_mem (List.mem_filter.mpr ⟨he, beq_self_eq_true _⟩)

namespace Order

variable {edges : List Edge}

theorem release_append (edges : List Edge) (first second released : List String) :
    (release edges (first ++ second) released).1 = (release edges first released).1 ++
      (release edges second (release edges first released).2).1 := by
  induction first generalizing released with
  | nil => rfl
  | cons id first ih =>
    simp only [List.cons_append, release]
    split
    · exact congrArg (id :: ·) (ih (id :: released))
    · exact ih (id :: released)

theorem release_eq_dedup {targets released : List String}
    (h : ∀ id ∈ targets, released.count id + targets.count id = Edge.indegree edges id) :
    (release edges targets released).1 = targets.dedup := by
  induction targets generalizing released with
  | nil => rfl
  | cons target targets ih =>
    have hrest : ∀ id ∈ targets, (target :: released).count id + targets.count id =
        Edge.indegree edges id := by
      intro id hid
      have := h id (List.mem_cons_of_mem target hid)
      simp only [List.count_cons] at this ⊢
      omega
    have htarget := h target List.mem_cons_self
    rw [List.count_cons_self] at htarget
    by_cases hlater : target ∈ targets
    · have hnot : ¬ released.count target + 1 = Edge.indegree edges target := by
        have := List.count_pos_iff.mpr hlater
        omega
      simp [release, hnot, ih hrest, List.dedup_cons_of_mem hlater]
    · have hready : released.count target + 1 = Edge.indegree edges target := by
        rw [List.count_eq_zero_of_not_mem hlater] at htarget
        omega
      simp [release, hready, ih hrest, List.dedup_cons_of_notMem hlater]

theorem Drains.eq_append {known queue released rest : List String}
    (h : Drains known edges queue released rest) : rest = queue ++ (release edges
      (rest.flatMap fun id => if known.contains id then Edge.successors edges id else [])
        released).1 := by
  induction h with
  | empty released => rfl
  | @take id queue released targets rest htargets _ ih =>
    rw [List.flatMap_cons, release_append, ← htargets]
    rw [List.cons_append, ← List.append_assoc]
    exact congrArg (id :: ·) ih

theorem count_flatMap_successors {ids : List String} (h : ids.Nodup) (edges : List Edge)
    (id : String) :
    (ids.flatMap (Edge.successors edges)).count id = Edge.arrivals edges ids id := by
  induction ids using List.reverseRecOn with
  | nil => simp [Edge.arrivals_nil]
  | append_singleton ids source ih =>
    obtain ⟨hsource, hids⟩ : source ∉ ids ∧ ids.Nodup :=
      List.nodup_cons.mp (List.nodup_append_comm.mp h)
    rw [List.flatMap_append, List.count_append, ih hids, List.flatMap_singleton,
      Edge.count_successors, Edge.arrivals_snoc hsource, Nat.add_comm]

end Order

section Dedup

variable {α β : Type} [DecidableEq β] {l : List α} {f : α → List β} {a : α} {x y : β}

theorem dedup_filter (p : β → Bool) (l : List β) : (l.filter p).dedup = l.dedup.filter p := by
  induction l with
  | nil => rfl
  | cons x l ih =>
    by_cases hx : p x <;> by_cases hmem : x ∈
      l <;> simp_all [List.dedup_cons_of_mem, List.dedup_cons_of_notMem]

theorem before_dedup_append {m : List β} (hx : x ∈ l.flatMap f) (hm : x ∉ m) (hy : y ∈ m) :
    Before (l.flatMap f ++ m).dedup x y := by
  rw [List.dedup_append]
  obtain ⟨rest, hrest⟩ := List.suffix_union_right (l.flatMap f) m.dedup
  have hmem : x ∈ rest ++ m.dedup := hrest ▸ List.mem_union_left hx _
  rw [← hrest]
  refine Before.append ?_ (List.mem_dedup.mpr hy)
  simpa [hm] using hmem

theorem exists_source_of_before_dedup (ha : a ∈ l) (hx : x ∈ f a)
    (h : Before (l.flatMap f).dedup x y) : ∃ b ∈ l, y ∈ f b ∧ (a = b ∨ Before l a b) := by
  obtain ⟨done, rest, rfl⟩ := List.append_of_mem ha
  by_cases hy : y ∈ (a :: rest).flatMap f
  · obtain ⟨b, hb, hy⟩ := List.mem_flatMap.mp hy
    refine ⟨b, List.mem_append_right done hb, hy, ?_⟩
    rcases List.mem_cons.mp hb with rfl | hb
    · exact .inl rfl
    · exact .inr ((before_cons.mpr (.inr ⟨rfl, hb⟩)).of_sublist (List.sublist_append_right done _))
  · rw [List.flatMap_append] at h
    have hdone : y ∈ done.flatMap f := by
      have hmem := List.mem_dedup.mp h.mem_right
      exact (List.mem_append.mp hmem).resolve_right hy
    have hback := before_dedup_append hdone hy (List.mem_flatMap.mpr ⟨a, List.mem_cons_self, hx⟩)
    exact absurd h (hback.asymm (List.nodup_dedup _))

/-- Sources whose targets all come again from a later source of a kind may be left out for those of
the kind. -/
theorem dedup_flatMap_filter {p : α → Bool} (hl : l.Nodup)
    (h : ∀ a ∈ l, ¬ p a → ∀ x ∈ f a, ∃ b, Before l a b ∧ p b ∧ x ∈ f b) :
    (l.flatMap f).dedup = ((l.filter p).flatMap f).dedup := by
  induction l with
  | nil => rfl
  | cons a l ih =>
    obtain ⟨ha, hl⟩ := List.nodup_cons.mp hl
    have hrest := ih hl fun a' ha' hp x hx => by
      obtain ⟨b, hb, hlater⟩ := h a' (List.mem_cons_of_mem a ha') hp x hx
      refine ⟨b, ?_, hlater⟩
      rcases before_cons.mp hb with hb | ⟨rfl, _⟩
      · exact hb
      · exact absurd ha' ha
    by_cases hp : p a
    · rw [List.filter_cons_of_pos hp, List.flatMap_cons, List.flatMap_cons, List.dedup_append,
        List.dedup_append, hrest]
    · have hsubset : f a ⊆ l.flatMap f := by
        intro x hx
        obtain ⟨b, hb, _, hxb⟩ := h a List.mem_cons_self hp x hx
        rcases before_cons.mp hb with hb | ⟨_, hb⟩
        · exact List.mem_flatMap.mpr ⟨b, hb.mem_right, hxb⟩
        · exact List.mem_flatMap.mpr ⟨b, hb, hxb⟩
      rw [List.filter_cons_of_neg hp, List.flatMap_cons, List.Subset.dedup_append_right hsubset,
        hrest]

end Dedup

structure IsDag (nodes : List Node) (edges : List Edge) : Prop where
  nodup : (nodes.map Node.id).Nodup
  ends : ∀ edge ∈ edges, edge.source ∈ nodes.map Node.id ∧ edge.target ∈ nodes.map Node.id
  acyclic : ∀ id, ¬ TransGen (Leads (nodes.map Node.id) edges) id id

namespace IsDag

variable {nodes : List Node} {edges : List Edge} {edge : Edge} {a b id : String} {n : Nat}

theorem mem_orderedIds (h : IsDag nodes edges) :
    id ∈ Order.orderedIds nodes edges ↔ id ∈ nodes.map Node.id := by
  constructor
  · intro hid
    rcases ((Order.mem_orderedIds_iff h.nodup).mp hid).1 with hknown | ⟨edge, he, rfl⟩
    · exact hknown
    · exact (h.ends edge he).2
  · intro hid
    have hperm :=
      (topologicalOrder_perm_iff_acyclic h.nodup fun edge he => (h.ends edge he).1).mpr h.acyclic
    exact (mem_map_id_topologicalOrder.mp ((hperm.map Node.id).mem_iff.mpr hid)).1

theorem nodup_orderedIds (h : IsDag nodes edges) : (Order.orderedIds nodes edges).Nodup :=
  Order.nodup_orderedIds h.nodup

theorem map_id_topologicalOrder (h : IsDag nodes edges) :
    (topologicalOrder nodes edges).map Node.id = Order.orderedIds nodes edges := by
  rw [Flowplan.map_id_topologicalOrder, List.filter_eq_self]
  intro id hid
  simpa using h.mem_orderedIds.mp hid

/-- The order is made of the steps that no edge leads to, and then of the other ones, each where
the last edge leads to it if one goes along the order itself. -/
theorem orderedIds_eq (h : IsDag nodes edges) : Order.orderedIds nodes edges =
    (nodes.map Node.id).filter (Edge.indegree edges · == 0) ++
      ((Order.orderedIds nodes edges).flatMap (Edge.successors edges)).dedup := by
  have htargets : ∀ id, (if (nodes.map Node.id).contains id then Edge.successors edges id else []) =
      Edge.successors edges id := by
    intro id
    by_cases hid : id ∈ nodes.map Node.id
    · exact if_pos (List.contains_iff_mem.mpr hid)
    · rw [if_neg (by simpa using hid), eq_comm, List.eq_nil_iff_forall_not_mem]
      intro target htarget
      obtain ⟨edge, he, rfl, _⟩ := mem_successors.mp htarget
      exact hid (h.ends edge he).1
  have hdrains := (Order.drains_orderedIds h.nodup edges).eq_append
  simp only [htargets] at hdrains
  rw [Order.release_eq_dedup] at hdrains
  · exact hdrains
  · intro id _
    rw [List.count_nil, Nat.zero_add, Order.count_flatMap_successors h.nodup_orderedIds]
    exact Edge.arrivals_eq_indegree_iff.mpr fun edge he _ => h.mem_orderedIds.mpr (h.ends edge he).1

theorem before_of_edge (h : IsDag nodes edges) (he : edge ∈ edges) :
    Before (Order.orderedIds nodes edges) edge.source edge.target :=
  Order.before_orderedIds h.nodup he (h.mem_orderedIds.mpr (h.ends edge he).2)

theorem idxOf_lt_idxOf (h : IsDag nodes edges) (hab : Before (Order.orderedIds nodes edges) a b) :
    (Order.orderedIds nodes edges).idxOf a < (Order.orderedIds nodes edges).idxOf b := by
  have hnodup := h.nodup_orderedIds
  have hlt := (idxOf_lt_idxOf_iff (fun _ _ => Before.asymm hnodup) (f := fun id => id)
    (pairwise_before (List.Sublist.refl _)) a b).mpr
    ⟨a, hab.mem_left, rfl, fun _ _ heq => heq ▸ hab⟩
  simpa using hlt

theorem le_idxOf_of_trail (h : IsDag nodes edges) (htrail : Trail edges n id) :
    n ≤ (Order.orderedIds nodes edges).idxOf id := by
  induction htrail with
  | start id => exact Nat.zero_le _
  | step he _ ih => exact Nat.succ_le_of_lt (ih.trans_lt (h.idxOf_lt_idxOf (h.before_of_edge he)))

theorem length_orderedIds (h : IsDag nodes edges) :
    (Order.orderedIds nodes edges).length = nodes.length := by
  have hperm :=
    (topologicalOrder_perm_iff_acyclic h.nodup fun edge he => (h.ends edge he).1).mpr h.acyclic
  rw [← h.map_id_topologicalOrder, List.length_map, hperm.length_eq]

theorem isGreatest_rank (h : IsDag nodes edges) (id : String) :
    IsGreatest {n | Trail edges n id} (rank nodes edges id) := by
  obtain ⟨⟨_, htrail⟩, hle⟩ := isGreatest_longestTrail edges nodes.length id
  refine ⟨htrail, fun n hn => hle ⟨?_, hn⟩⟩
  exact (h.le_idxOf_of_trail hn).trans (h.length_orderedIds ▸ List.idxOf_le_length)

theorem rank_lt_length (h : IsDag nodes edges) (hid : id ∈ nodes.map Node.id) :
    rank nodes edges id < nodes.length := by
  have hlt := List.idxOf_lt_length_of_mem (h.mem_orderedIds.mpr hid)
  exact (h.le_idxOf_of_trail (h.isGreatest_rank id).1).trans_lt (h.length_orderedIds ▸ hlt)

theorem rank_source_lt (h : IsDag nodes edges) (he : edge ∈ edges) :
    rank nodes edges edge.source < rank nodes edges edge.target :=
  (h.isGreatest_rank edge.target).2 (Trail.step he (h.isGreatest_rank edge.source).1)

theorem exists_edge_of_rank (h : IsDag nodes edges) (hrank : rank nodes edges id = n + 1) :
    ∃ edge ∈ edges, edge.target = id ∧ rank nodes edges edge.source = n := by
  have htrail := (h.isGreatest_rank id).1
  rw [Set.mem_ofPred_eq, hrank] at htrail
  obtain _ | ⟨he, htrail⟩ := htrail
  have hle := (h.isGreatest_rank _).2 htrail
  have hlt := h.rank_source_lt he
  exact ⟨_, he, rfl, by omega⟩

theorem rank_eq_zero_iff (h : IsDag nodes edges) :
    rank nodes edges id = 0 ↔ Edge.indegree edges id = 0 := by
  constructor
  · intro hrank
    by_contra hentered
    obtain ⟨edge, he, htarget⟩ := List.countP_pos_iff.mp (Nat.pos_of_ne_zero hentered)
    have := h.rank_source_lt he
    simp_all
  · intro hentry
    by_contra hrank
    obtain ⟨n, hn⟩ := Nat.exists_eq_succ_of_ne_zero hrank
    obtain ⟨edge, he, htarget, _⟩ := h.exists_edge_of_rank hn
    exact List.countP_eq_zero.mp hentry edge he (by simpa using htarget)

theorem target_mem_flatMap (h : IsDag nodes edges) (he : edge ∈ edges) :
    edge.target ∈ (Order.orderedIds nodes edges).flatMap (Edge.successors edges) :=
  List.mem_flatMap.mpr ⟨edge.source, h.mem_orderedIds.mpr (h.ends edge he).1,
    mem_successors.mpr ⟨edge, he, rfl, rfl⟩⟩

theorem before_dedup (h : IsDag nodes edges)
    (hab : Before (Order.orderedIds nodes edges) edge.target b) (he : edge ∈ edges) :
    Before ((Order.orderedIds nodes edges).flatMap (Edge.successors edges)).dedup
      edge.target b := by
  have hnodup := h.nodup_orderedIds
  have horder := h.orderedIds_eq
  have ha := List.mem_dedup.mpr (h.target_mem_flatMap he)
  have hb : b ∈ ((Order.orderedIds nodes edges).flatMap (Edge.successors edges)).dedup := by
    have hmem := hab.mem_right
    rw [horder] at hmem
    refine (List.mem_append.mp hmem).resolve_left fun hentry => hab.asymm hnodup ?_
    rw [horder]
    exact Before.append hentry ha
  have hne : edge.target ≠ b := by
    rintro rfl
    exact hab.irrefl hnodup
  refine (Before.connected ha hb hne).resolve_right fun hba => hab.asymm hnodup ?_
  rw [horder]
  exact hba.of_sublist (List.sublist_append_right _ _)

theorem rank_le_of_before (h : IsDag nodes edges)
    (hab : Before (Order.orderedIds nodes edges) a b) :
    rank nodes edges a ≤ rank nodes edges b := by
  have hnodup := h.nodup_orderedIds
  refine before_induction (P := fun b => ∀ a, Before (Order.orderedIds nodes edges) a b →
    rank nodes edges a ≤ rank nodes edges b) hnodup ?_ b hab.mem_right a hab
  -- an edge from the rank before leads to `a`, and one to `b` starts there or later
  intro b hb ih a hab
  by_cases hrank : rank nodes edges a = 0
  · exact hrank ▸ Nat.zero_le _
  · obtain ⟨n, hn⟩ := Nat.exists_eq_succ_of_ne_zero hrank
    obtain ⟨edge, he, rfl, hsource⟩ := h.exists_edge_of_rank hn
    have hleads : edge.target ∈ Edge.successors edges edge.source :=
      mem_successors.mpr ⟨edge, he, rfl, rfl⟩
    obtain ⟨source, _, hsuccessor, hlater⟩ := exists_source_of_before_dedup
      (h.mem_orderedIds.mpr (h.ends edge he).1) hleads (h.before_dedup hab he)
    obtain ⟨last, hlast, rfl, rfl⟩ := mem_successors.mp hsuccessor
    have hle : n ≤ rank nodes edges last.source := by
      rcases hlater with heq | hbefore
      · exact heq ▸ hsource.ge
      · exact hsource ▸ ih last.source (h.before_of_edge hlast) edge.source hbefore
    have hlt := h.rank_source_lt hlast
    omega

theorem filter_rank_zero (h : IsDag nodes edges) :
    (Order.orderedIds nodes edges).filter (rank nodes edges · == 0) = peers nodes edges 0 := by
  have hentries : (nodes.map Node.id).filter (Edge.indegree edges · == 0) =
      peers nodes edges 0 := by
    refine List.filter_congr fun id _ => ?_
    rw [Bool.eq_iff_iff, beq_iff_eq, beq_iff_eq, h.rank_eq_zero_iff]
  have hrest : ((Order.orderedIds nodes edges).flatMap (Edge.successors edges)).dedup.filter
      (rank nodes edges · == 0) = [] := by
    refine List.filter_eq_nil_iff.mpr fun id hid => ?_
    obtain ⟨source, _, hsuccessor⟩ := List.mem_flatMap.mp (List.mem_dedup.mp hid)
    obtain ⟨edge, he, rfl, rfl⟩ := mem_successors.mp hsuccessor
    have := h.rank_source_lt he
    simp
    omega
  rw [h.orderedIds_eq, List.filter_append, hrest, List.append_nil, hentries, peers,
    List.filter_filter]
  simp

theorem filter_rank_succ (h : IsDag nodes edges) (n : Nat) :
    (Order.orderedIds nodes edges).filter (rank nodes edges · == n + 1) =
      heirs nodes edges (n + 1)
        ((Order.orderedIds nodes edges).filter (rank nodes edges · == n)) := by
  have hnodup := h.nodup_orderedIds
  have hentries : ((nodes.map Node.id).filter (Edge.indegree edges · == 0)).filter
      (rank nodes edges · == n + 1) = [] := by
    refine List.filter_eq_nil_iff.mpr fun id hid => ?_
    have hzero := h.rank_eq_zero_iff.mpr (by simpa using (List.mem_filter.mp hid).2)
    simp [hzero]
  -- no edge from another rank leads to a step of rank `n + 1` after those from rank `n` do
  have hlast : ∀ id ∈ Order.orderedIds nodes edges, ¬ (rank nodes edges id == n) = true →
      ∀ target ∈ (Edge.successors edges id).filter (rank nodes edges · == n + 1),
        ∃ later, Before (Order.orderedIds nodes edges) id later ∧
          (rank nodes edges later == n) = true ∧
          target ∈ (Edge.successors edges later).filter (rank nodes edges · == n + 1) := by
    intro id hid hother target htarget
    obtain ⟨hsuccessor, hrank⟩ := List.mem_filter.mp htarget
    obtain ⟨edge, he, rfl, rfl⟩ := mem_successors.mp hsuccessor
    obtain ⟨last, hlast, heq, hsource⟩ := h.exists_edge_of_rank (beq_iff_eq.mp hrank)
    have hlt := h.rank_source_lt he
    rw [beq_iff_eq] at hrank hother
    have hne : edge.source ≠ last.source := fun hsame => hother (hsame ▸ hsource)
    refine ⟨last.source, ?_, by simp [hsource], List.mem_filter.mpr ⟨?_, by simp [hrank]⟩⟩
    · have hmem := h.mem_orderedIds.mpr (h.ends last hlast).1
      refine (Before.connected hid hmem hne).resolve_right fun hback => ?_
      have := h.rank_le_of_before hback
      omega
    · exact mem_successors.mpr ⟨last, hlast, rfl, heq⟩
  calc (Order.orderedIds nodes edges).filter (rank nodes edges · == n + 1)
    _ = ((Order.orderedIds nodes edges).flatMap fun id =>
          (Edge.successors edges id).filter (rank nodes edges · == n + 1)).dedup := by
      rw [← List.filter_flatMap, dedup_filter]
      nth_rewrite 1 [h.orderedIds_eq]
      rw [List.filter_append, hentries, List.nil_append]
    _ = (((Order.orderedIds nodes edges).filter (rank nodes edges · == n)).flatMap fun id =>
          (Edge.successors edges id).filter (rank nodes edges · == n + 1)).dedup :=
      dedup_flatMap_filter hnodup hlast
    _ = heirs nodes edges (n + 1)
          ((Order.orderedIds nodes edges).filter (rank nodes edges · == n)) := by
      rw [heirs, ← dedup_filter, List.filter_flatMap]

theorem filter_rank_eq_peers_iff (h : IsDag nodes edges) (n : Nat) :
    (Order.orderedIds nodes edges).filter (rank nodes edges · == n) = peers nodes edges n ↔
      ∀ a b, rank nodes edges a = n → rank nodes edges b = n → Before (nodes.map Node.id) a b →
        Before (Order.orderedIds nodes edges) a b := by
  constructor
  · intro heq a b ha hb hab
    have hpeers : Before (peers nodes edges n) a b := hab.filter (by simp [ha]) (by simp [hb])
    exact (heq ▸ hpeers).of_sublist List.filter_sublist
  · intro hties
    have hperm : (peers nodes edges n).Perm
        ((Order.orderedIds nodes edges).filter (rank nodes edges · == n)) := by
      refine (List.perm_ext_iff_of_nodup (h.nodup.filter _) (h.nodup_orderedIds.filter _)).mpr ?_
      intro id
      rw [List.mem_filter, List.mem_filter, h.mem_orderedIds]
    refine (eq_of_before (h.nodup_orderedIds.filter _) hperm fun a b hab => ?_).symm
    have ha := (List.mem_filter.mp hab.mem_left).2
    have hb := (List.mem_filter.mp hab.mem_right).2
    exact (hties a b (by simpa using ha) (by simpa using hb)
      (hab.of_sublist List.filter_sublist)).filter ha hb

theorem keepsTies_iff_peers (h : IsDag nodes edges) : KeepsTies nodes edges ↔
    ∀ n, (Order.orderedIds nodes edges).filter (rank nodes edges · == n) = peers nodes edges n := by
  simp only [h.filter_rank_eq_peers_iff, KeepsTies, h.map_id_topologicalOrder]
  exact ⟨fun hties n a b ha hb => hties a b (ha.trans hb.symm),
    fun hties a b heq => hties _ a b heq rfl⟩

theorem peers_eq_nil (h : IsDag nodes edges) (hn : nodes.length ≤ n) :
    peers nodes edges n = [] := by
  refine List.filter_eq_nil_iff.mpr fun id hid => ?_
  have := h.rank_lt_length hid
  simp
  omega

end IsDag

variable {nodes : List Node} {edges : List Edge}

/-- The order goes from rank to rank, and a rank is the length of a longest way. The steps that no
edge leads to come as the author has them, and those of any other rank where the last edges from
the rank before lead to them. So ties keep the order of the author exactly where from each rank,
taken in his order, the last edges to the next one lead to it in his order. -/
theorem keepsTies_iff (h : IsDag nodes edges) :
    (∀ id, IsGreatest {n | Trail edges n id} (rank nodes edges id)) ∧
    ((topologicalOrder nodes edges).map Node.id).Pairwise
      (fun a b => rank nodes edges a ≤ rank nodes edges b) ∧
    ((topologicalOrder nodes edges).map Node.id).filter (rank nodes edges · == 0) =
      peers nodes edges 0 ∧
    (∀ n, ((topologicalOrder nodes edges).map Node.id).filter (rank nodes edges · == n + 1) =
      heirs nodes edges (n + 1) (((topologicalOrder nodes edges).map Node.id).filter
        (rank nodes edges · == n))) ∧
    (KeepsTies nodes edges ↔
      ∀ n < nodes.length, heirs nodes edges (n + 1) (peers nodes edges n) =
        peers nodes edges (n + 1)) := by
  rw [h.map_id_topologicalOrder, h.keepsTies_iff_peers]
  refine ⟨h.isGreatest_rank, ?_, h.filter_rank_zero, h.filter_rank_succ, ?_, ?_⟩
  · exact (pairwise_before (List.Sublist.refl _)).imp h.rank_le_of_before
  · intro hties n _
    rw [← hties n, ← hties (n + 1), h.filter_rank_succ]
  · intro hheirs n
    induction n with
    | zero => exact h.filter_rank_zero
    | succ n ih =>
      rw [h.filter_rank_succ, ih]
      by_cases hn : n < nodes.length
      · exact hheirs n hn
      · have hnone := h.peers_eq_nil (Nat.le_of_not_lt hn)
        rw [hnone, h.peers_eq_nil ((Nat.le_of_not_lt hn).trans (Nat.le_succ n))]
        rfl

theorem keepsTies_diamond :
    IsDag diamond.nodes diamond.edges ∧ KeepsTies diamond.nodes diamond.edges := by
  have hdag : IsDag diamond.nodes diamond.edges :=
    ⟨by decide, by decide, acyclic_of_hasCycle_eq_false (by decide)⟩
  obtain ⟨_, _, _, _, hties⟩ := keepsTies_iff hdag
  exact ⟨hdag, hties.mpr (by decide)⟩

def forked : Graph where
  nodes := [plainCall "start", plainCall "first", plainCall "second"]
  edges := [⟨"start", "second", none⟩, ⟨"start", "first", none⟩]
  onError := none

theorem ties_swapped_forked : IsDag forked.nodes forked.edges ∧
    ¬ ∀ a b n, IsGreatest {n | Trail forked.edges n a} n →
      IsGreatest {n | Trail forked.edges n b} n →
      Before (forked.nodes.map Node.id) a b →
      Before ((topologicalOrder forked.nodes forked.edges).map Node.id) a b := by
  have hdag : IsDag forked.nodes forked.edges :=
    ⟨by decide, by decide, acyclic_of_hasCycle_eq_false (by decide)⟩
  refine ⟨hdag, fun hties => ?_⟩
  have hfirst : rank forked.nodes forked.edges "first" = 1 := by decide
  have hsecond : rank forked.nodes forked.edges "second" = 1 := by decide
  have hbefore := hties "first" "second" 1 (hfirst ▸ hdag.isGreatest_rank "first")
    (hsecond ▸ hdag.isGreatest_rank "second") (by decide)
  revert hbefore
  decide

end Flowplan
