import Flowplan.Graph.Order
import Flowplan.Proofs.Precedence
import Mathlib.Data.List.Count
import Mathlib.Data.List.Dedup

/-!
# Topological order

What the queue of ready steps keeps true, and what follows for the order: every step comes after
all steps that lead to it, and only a step behind a cycle or behind an unknown step is left out.
-/

namespace Flowplan

namespace Edge

def arrivals (edges : List Edge) (sources : List String) (id : String) : Nat :=
  edges.countP fun edge => edge.target == id && sources.contains edge.source

theorem count_successors (edges : List Edge) (source id : String) :
    (successors edges source).count id = arrivals edges [source] id := by
  rw [successors, List.count, List.countP_map, List.countP_filter, arrivals]
  apply List.countP_congr
  intro edge _
  simp [Function.comp_apply]

theorem arrivals_nil (edges : List Edge) (id : String) : arrivals edges [] id = 0 := by
  simp [arrivals]

theorem arrivals_snoc {sources : List String} {source : String} (h : source ∉ sources)
    (edges : List Edge) (id : String) :
    arrivals edges (sources ++ [source]) id =
      arrivals edges [source] id + arrivals edges sources id := by
  induction edges with
  | nil => rfl
  | cons edge edges ih =>
    simp only [arrivals, List.countP_cons] at ih ⊢
    rw [ih]
    by_cases hs : edge.source = source <;> grind

theorem arrivals_le_indegree (edges : List Edge) (sources : List String) (id : String) :
    arrivals edges sources id ≤ indegree edges id := by
  apply List.countP_mono_left
  intro edge _ h
  simp_all

theorem arrivals_eq_indegree_iff {edges : List Edge} {sources : List String} {id : String} :
    arrivals edges sources id = indegree edges id ↔
      ∀ edge ∈ edges, edge.target = id → edge.source ∈ sources := by
  induction edges with
  | nil => simp [arrivals, indegree]
  | cons edge edges ih =>
    have hle := arrivals_le_indegree edges sources id
    simp only [arrivals, indegree, List.countP_cons, List.forall_mem_cons] at ih hle ⊢
    rw [← ih]
    by_cases hs : edge.source ∈ sources <;> grind

end Edge

namespace Order

theorem count_release_snd (edges : List Edge) (targets released : List String) (id : String) :
    (release edges targets released).2.count id = targets.count id + released.count id := by
  induction targets generalizing released with
  | nil => simp [release]
  | cons target targets ih =>
    have h := ih (target :: released)
    simp only [release]
    split <;> rw [h] <;> simp only [List.count_cons] <;> omega

theorem count_release_fst (edges : List Edge) (targets released : List String) (id : String) :
    (release edges targets released).1.count id =
      if released.count id < Edge.indegree edges id ∧
          Edge.indegree edges id ≤ targets.count id + released.count id then 1 else 0 := by
  induction targets generalizing released with
  | nil => grind [release]
  | cons target targets ih =>
    have h := ih (target :: released)
    simp only [release]
    by_cases ht : target = id <;> grind

/-- What holds whenever an id is about to be taken: the ids taken so far, the queue,
and the targets of the edges released so far. -/
structure Progress (known : List String) (edges : List Edge) (done queue released : List String) :
    Prop where
  nodup : (done ++ queue).Nodup
  count_released : ∀ id, released.count id = Edge.arrivals edges (done.filter known.contains) id
  mem_iff : ∀ id, id ∈ done ++ queue ↔
    (id ∈ known ∨ 0 < Edge.indegree edges id) ∧
      Edge.arrivals edges (done.filter known.contains) id = Edge.indegree edges id
  before : ∀ edge ∈ edges, edge.target ∈ done → Before done edge.source edge.target

namespace Progress

variable {known : List String} {edges : List Edge} {done queue released : List String} {id : String}

theorem start (h : known.Nodup) (edges : List Edge) :
    Progress known edges [] (known.filter (Edge.indegree edges · == 0)) [] where
  nodup := h.filter _
  count_released := by simp [Edge.arrivals_nil]
  mem_iff id := by
    simp only [List.nil_append, List.mem_filter, List.filter_nil, Edge.arrivals_nil, beq_iff_eq]
    grind
  before := by simp

theorem arrivals_take (h : Progress known edges done (id :: queue) released) (other : String) :
    Edge.arrivals edges ((done ++ [id]).filter known.contains) other =
      (if known.contains id then Edge.successors edges id else []).count other +
        Edge.arrivals edges (done.filter known.contains) other := by
  have hid : id ∉ done.filter known.contains := by
    have := h.nodup
    grind
  by_cases hk : id ∈ known
  · simp [hk, Edge.arrivals_snoc hid, Edge.count_successors]
  · simp [hk]

theorem take (h : Progress known edges done (id :: queue) released) {targets : List String}
    (ht : targets = if known.contains id then Edge.successors edges id else []) :
    Progress known edges (done ++ [id]) (queue ++ (release edges targets released).1)
      (release edges targets released).2 := by
  have harrivals : ∀ other, Edge.arrivals edges ((done ++ [id]).filter known.contains) other =
      targets.count other + released.count other := by
    intro other
    rw [arrivals_take h, ht, h.count_released]
  have hle := Edge.arrivals_le_indegree edges ((done ++ [id]).filter known.contains)
  have hready : ∀ other, other ∈ (release edges targets released).1 ↔
      released.count other < Edge.indegree edges other ∧
        Edge.arrivals edges ((done ++ [id]).filter known.contains) other =
          Edge.indegree edges other := by
    intro other
    rw [← List.count_pos_iff, count_release_fst, ← harrivals]
    have := hle other
    grind
  have hseen : done ++ [id] ++ (queue ++ (release edges targets released).1) =
      done ++ id :: queue ++ (release edges targets released).1 := by simp
  constructor
  · rw [hseen, List.nodup_append]
    refine ⟨h.nodup, ?_, ?_⟩
    · apply List.nodup_iff_count_le_one.mpr
      intro other
      rw [count_release_fst]
      split <;> omega
    · rintro other ho _ hr rfl
      have := (h.mem_iff other).mp ho
      have := ((hready other).mp hr).1
      have := h.count_released other
      omega
  · intro other
    rw [count_release_snd, harrivals]
  · intro other
    rw [hseen, List.mem_append, h.mem_iff, hready]
    have := hle other
    have := harrivals other
    have := h.count_released other
    grind
  · intro edge he htarget
    rcases List.mem_append.mp htarget with htarget | htarget
    · exact (h.before edge he htarget).of_sublist (List.sublist_append_left done [id])
    · have hid : id ∈ done ++ id :: queue := by simp
      have harrived := Edge.arrivals_eq_indegree_iff.mp ((h.mem_iff id).mp hid).2
      have hsource := harrived edge he (List.mem_singleton.mp htarget)
      exact Before.append (List.mem_of_mem_filter hsource) htarget

theorem length_le (h : Progress known edges done queue released) :
    done.length + queue.length ≤ known.length + edges.length := by
  have hsubset : done ++ queue ⊆ known ++ edges.map Edge.target := by
    intro id hid
    rcases ((h.mem_iff id).mp hid).1 with hk | hd
    · exact List.mem_append_left _ hk
    · obtain ⟨edge, he, rfl⟩ : ∃ edge ∈ edges, edge.target = id := by
        simpa [Edge.indegree, List.countP_pos_iff] using hd
      exact List.mem_append_right _ (List.mem_map_of_mem he)
  simpa using (List.subperm_of_subset h.nodup hsubset).length_le

theorem drain {fuel : Nat} (h : Progress known edges done queue released)
    (hfuel : known.length + edges.length ≤ done.length + fuel) :
    ∃ all, Progress known edges (done ++ drain known edges fuel queue released) [] all := by
  induction fuel generalizing done queue released with
  | zero =>
    -- without fuel as many ids are taken as there can be, so none wait
    have hle := h.length_le
    have hqueue : queue = [] := List.length_eq_zero_iff.mp (by omega)
    subst hqueue
    exact ⟨released, by simpa [Order.drain] using h⟩
  | succ fuel ih =>
    cases queue with
    | nil => exact ⟨released, by simpa [Order.drain] using h⟩
    | cons id queue =>
      obtain ⟨all, hall⟩ := ih (h.take rfl) (by simp; omega)
      exact ⟨all, by simpa [Order.drain] using hall⟩

end Progress

variable {nodes : List Node} {edges : List Edge} {id : String}

theorem exists_progress (h : (nodes.map Node.id).Nodup) (edges : List Edge) :
    ∃ released, Progress (nodes.map Node.id) edges (orderedIds nodes edges) [] released := by
  have hfuel : (nodes.map Node.id).length + edges.length ≤
      ([] : List String).length + (nodes.length + edges.length) := by
    simp
  simpa [orderedIds] using (Progress.start h edges).drain hfuel

theorem nodup_orderedIds (h : (nodes.map Node.id).Nodup) : (orderedIds nodes edges).Nodup := by
  obtain ⟨released, hprogress⟩ := exists_progress h edges
  simpa using hprogress.nodup

theorem mem_orderedIds_iff (h : (nodes.map Node.id).Nodup) :
    id ∈ orderedIds nodes edges ↔
      (id ∈ nodes.map Node.id ∨ ∃ edge ∈ edges, edge.target = id) ∧
        ∀ edge ∈ edges, edge.target = id →
          edge.source ∈ nodes.map Node.id ∧ edge.source ∈ orderedIds nodes edges := by
  obtain ⟨released, hprogress⟩ := exists_progress h edges
  have hmem := hprogress.mem_iff id
  rw [List.append_nil, Edge.arrivals_eq_indegree_iff] at hmem
  rw [hmem]
  simp only [Edge.indegree, List.countP_pos_iff, List.mem_filter, List.contains_iff_mem, beq_iff_eq]
  grind

theorem before_orderedIds (h : (nodes.map Node.id).Nodup) {edge : Edge} (he : edge ∈ edges)
    (htarget : edge.target ∈ orderedIds nodes edges) :
    Before (orderedIds nodes edges) edge.source edge.target := by
  obtain ⟨released, hprogress⟩ := exists_progress h edges
  exact hprogress.before edge he htarget

end Order

section TopologicalOrder

variable {nodes : List Node} {edges : List Edge}

theorem map_id_topologicalOrder (nodes : List Node) (edges : List Edge) :
    (topologicalOrder nodes edges).map Node.id =
      (Order.orderedIds nodes edges).filter (nodes.map Node.id).contains := by
  rw [topologicalOrder]
  induction Order.orderedIds nodes edges with
  | nil => rfl
  | cons id ids ih =>
    cases hfound : nodes.reverse.find? (·.id == id) with
    | none =>
      have : id ∉ nodes.map Node.id := by
        simpa using hfound
      simp [hfound, ih, this]
    | some node =>
      have hnode : node.id = id := by simpa using List.find?_some hfound
      have : id ∈ nodes.map Node.id := by
        have := List.mem_of_find?_eq_some hfound
        grind
      simp [hfound, ih, this, hnode]

theorem mem_of_mem_topologicalOrder {node : Node} (h : node ∈ topologicalOrder nodes edges) :
    node ∈ nodes := by
  obtain ⟨id, _, hfound⟩ := List.mem_filterMap.mp h
  simpa using List.mem_of_find?_eq_some hfound

theorem nodup_topologicalOrder (h : (nodes.map Node.id).Nodup) :
    ((topologicalOrder nodes edges).map Node.id).Nodup := by
  rw [map_id_topologicalOrder]
  exact (Order.nodup_orderedIds h).filter _

theorem before_topologicalOrder (h : (nodes.map Node.id).Nodup) {edge : Edge} (he : edge ∈ edges)
    (htarget : edge.target ∈ (topologicalOrder nodes edges).map Node.id) :
    Before ((topologicalOrder nodes edges).map Node.id) edge.source edge.target := by
  rw [map_id_topologicalOrder] at htarget ⊢
  obtain ⟨hordered, hknown⟩ := List.mem_filter.mp htarget
  have hsource := ((Order.mem_orderedIds_iff h).mp hordered).2 edge he rfl
  exact (Order.before_orderedIds h he hordered).filter (by simpa using hsource.1) hknown

theorem mem_topologicalOrder_of_id (h : (nodes.map Node.id).Nodup) {node : Node}
    (hnode : node ∈ nodes) (hid : node.id ∈ (topologicalOrder nodes edges).map Node.id) :
    node ∈ topologicalOrder nodes edges := by
  obtain ⟨other, hother, heq⟩ := List.mem_map.mp hid
  have : other = node := List.inj_on_of_nodup_map h (mem_of_mem_topologicalOrder hother) hnode heq
  exact this ▸ hother

theorem mem_topologicalOrder (h : (nodes.map Node.id).Nodup)
    (hends : ∀ edge ∈ edges, edge.source ∈ nodes.map Node.id) {arrangement : List String}
    (hnodup : arrangement.Nodup) (hids : ∀ id ∈ nodes.map Node.id, id ∈ arrangement)
    (hforward : ∀ edge ∈ edges, edge.target ∈ nodes.map Node.id →
      Before arrangement edge.source edge.target)
    {node : Node} (hnode : node ∈ nodes) : node ∈ topologicalOrder nodes edges := by
  -- along the arrangement: all edges to the next id start at ids that
  -- have been shown to be in the order
  have hordered : ∀ id ∈ arrangement, id ∈ nodes.map Node.id →
      id ∈ Order.orderedIds nodes edges := by
    refine before_induction (P := fun id => id ∈ nodes.map Node.id →
      id ∈ Order.orderedIds nodes edges) hnodup ?_
    intro id _ ih hknown
    refine (Order.mem_orderedIds_iff h).mpr ⟨.inl hknown,
      fun edge he htarget => ⟨hends edge he, ?_⟩⟩
    exact ih edge.source (htarget ▸ hforward edge he (htarget ▸ hknown)) (hends edge he)
  have hid : node.id ∈ nodes.map Node.id := List.mem_map_of_mem hnode
  apply mem_topologicalOrder_of_id h hnode
  rw [map_id_topologicalOrder, List.mem_filter]
  exact ⟨hordered node.id (hids _ hid) hid, by simpa using hid⟩

end TopologicalOrder

end Flowplan
