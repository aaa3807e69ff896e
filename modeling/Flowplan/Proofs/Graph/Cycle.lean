import Flowplan.Graph.Order
import Flowplan.Proofs.Precedence
import Mathlib.Algebra.BigOperators.Group.Finset.Piecewise
import Mathlib.Algebra.GroupWithZero.Nat
import Mathlib.Algebra.Order.BigOperators.Group.Finset
import Mathlib.Data.Finset.Card

namespace Flowplan

namespace Cycle

theorem mem_successors {edges : List Edge} {id target : String} :
    target ∈ Edge.successors edges id ↔
      ∃ edge ∈ edges, edge.source = id ∧ edge.target = target := by
  simp [Edge.successors, and_assoc]

def trail (path : List Frame) : List String := (path.map Prod.fst).reverse

@[simp] theorem trail_cons (id : String) (rest : List String) (path : List Frame) :
    trail ((id, rest) :: path) = trail path ++ [id] := by
  simp [trail]

/-- What holds at every step of a search. The ids that are finished come after those of the path,
and the last one that was finished comes first. -/
structure Progress (known : List String) (edges : List Edge) (path : List Frame)
    (visited finished : List String) : Prop where
  nodup : (trail path ++ finished).Nodup
  mem_visited : ∀ id, id ∈ visited ↔ id ∈ trail path ++ finished
  forward : ∀ edge ∈ edges, edge.source ∈ trail path ++ finished → edge.target ∈ known →
    Before (trail path ++ finished) edge.source edge.target ∨
      ∃ rest, (edge.source, rest) ∈ path ∧ edge.target ∈ rest

namespace Progress

variable {known : List String} {edges : List Edge} {path : List Frame}
  {visited finished rest : List String} {id next : String}

theorem root (h : Progress known edges [] visited finished) (hid : id ∉ visited) :
    Progress known edges [(id, Edge.successors edges id)] (id :: visited) finished where
  nodup := by
    have := h.mem_visited id
    have := h.nodup
    simp_all [trail]
  mem_visited other := by simpa [trail] using or_congr_right (h.mem_visited other)
  forward edge he hsource htarget := by
    by_cases heq : edge.source = id
    · exact .inr ⟨Edge.successors edges id, by simp [heq], mem_successors.mpr ⟨edge, he, heq, rfl⟩⟩
    · have hsource : edge.source ∈ finished := by simpa [trail, heq] using hsource
      have hbefore : Before finished edge.source edge.target := by
        simpa [trail] using h.forward edge he (by simpa [trail] using hsource) htarget
      exact .inl (by simpa [trail] using .inl hbefore)

theorem pop (h : Progress known edges ((id, []) :: path) visited finished) :
    Progress known edges path visited (id :: finished) := by
  have heq : trail path ++ id :: finished = trail ((id, []) :: path) ++ finished := by simp
  constructor
  · rw [heq]
    exact h.nodup
  · rw [heq]
    exact h.mem_visited
  · rw [heq]
    intro edge he hsource htarget
    rcases h.forward edge he hsource htarget with hbefore | ⟨rest, hframe, hrest⟩
    · exact .inl hbefore
    · refine .inr ⟨rest, ?_, hrest⟩
      grind

theorem skip (h : Progress known edges ((id, next :: rest) :: path) visited finished)
    (hnext : next ∈ known → next ∈ finished) :
    Progress known edges ((id, rest) :: path) visited finished where
  nodup := by simpa using h.nodup
  mem_visited := by simpa using h.mem_visited
  forward edge he hsource htarget := by
    rw [trail_cons] at hsource ⊢
    rcases h.forward edge he (by rwa [trail_cons]) htarget with
      hbefore | ⟨pending, hframe, hpending⟩
    · exact .inl (by rwa [trail_cons] at hbefore)
    · rcases List.mem_cons.mp hframe with hframe | hframe
      · obtain ⟨hid, rfl⟩ := Prod.mk.inj hframe
        rcases List.mem_cons.mp hpending with heq | hpending
        · exact .inl (Before.append (by simp [hid]) (heq ▸ hnext (heq ▸ htarget)))
        · exact .inr ⟨rest, by simp [hid], hpending⟩
      · exact .inr ⟨pending, List.mem_cons_of_mem _ hframe, hpending⟩

theorem push (h : Progress known edges ((id, next :: rest) :: path) visited finished)
    (hnext : next ∉ visited) :
    Progress known edges ((next, Edge.successors edges next) :: (id, rest) :: path)
      (next :: visited) finished := by
  have hnew : next ∉ trail path ++ [id] ++ finished := by
    have := h.mem_visited next
    simp_all
  have hsublist : (trail path ++ [id] ++ finished).Sublist (trail path ++ [id] ++ [next]
      ++ finished) := by
    simp
  have hnodup := h.nodup
  have hvisited := h.mem_visited
  rw [trail_cons] at hnodup
  simp only [trail_cons] at hvisited
  constructor
  · simp only [trail_cons]
    grind
  · intro other
    simp only [trail_cons, List.mem_cons, hvisited other]
    grind
  · intro edge he hsource htarget
    simp only [trail_cons] at hsource ⊢
    by_cases hid : edge.source = next
    · exact .inr
        ⟨Edge.successors edges next, by simp [hid], mem_successors.mpr ⟨edge, he, hid, rfl⟩⟩
    · have hold : edge.source ∈ trail ((id, next :: rest) :: path) ++ finished := by
        simp_all
      rcases h.forward edge he hold htarget with hbefore | ⟨pending, hframe, hpending⟩
      · rw [trail_cons] at hbefore
        exact .inl (hbefore.of_sublist hsublist)
      · rcases List.mem_cons.mp hframe with hframe | hframe
        · obtain ⟨hsource, rfl⟩ := Prod.mk.inj hframe
          rcases List.mem_cons.mp hpending with heq | hpending
          · rw [hsource, heq]
            exact .inl ((Before.append (by simp) (by simp)).of_sublist
              (List.sublist_append_left _ finished))
          · exact .inr ⟨rest, by simp [hsource], hpending⟩
        · exact .inr ⟨pending, by simp [hframe], hpending⟩

end Progress

def tries (edges : List Edge) (id : String) : Nat := 1 + (Edge.successors edges id).length

/-- The tries that a search still has before it: those of the path and
those of the ids that are not visited. -/
def remaining (known : List String) (edges : List Edge) (path : List Frame)
    (visited : List String) : Nat :=
  (path.map fun frame => 1 + frame.2.length).sum + ∑ id ∈ known.toFinset \ visited.toFinset,
    tries edges id

theorem sum_tries_le (known : List String) (edges : List Edge) :
    ∑ id ∈ known.toFinset, tries edges id ≤ known.length + edges.length := by
  have hsuccessors : ∑ id ∈ known.toFinset, (Edge.successors edges id).length ≤ edges.length := by
    induction edges with
    | nil => simp [Edge.successors]
    | cons edge edges ih =>
      have hstep : ∀ id, (Edge.successors (edge :: edges) id).length =
          (if edge.source = id then 1 else 0) + (Edge.successors edges id).length := by
        intro id
        by_cases hid : edge.source = id <;> simp [Edge.successors, hid]
        omega
      simp only [hstep, Finset.sum_add_distrib, Finset.sum_ite_eq, List.length_cons]
      split <;> omega
  have hknown := known.toFinset_card_le
  simp only [tries, Finset.sum_add_distrib, ← Finset.card_eq_sum_ones]
  omega

theorem remaining_push {known : List String} {edges : List Edge} {visited : List String}
    {next : String} (hknown : next ∈ known) (hnext : next ∉ visited) (path : List Frame) :
    remaining known edges ((next, Edge.successors edges next) :: path) (next :: visited) =
      remaining known edges path visited := by
  have hmem : next ∈ known.toFinset \ visited.toFinset := by simp [hknown, hnext]
  have hsum := Finset.add_sum_erase _ (tries edges) hmem
  have hsets : known.toFinset \ (next :: visited).toFinset =
      (known.toFinset \ visited.toFinset).erase next := by
    ext id
    simp
    grind
  simp only [remaining, hsets, ← hsum, List.map_cons, List.sum_cons]
  rw [tries]
  omega

theorem exists_finished_of_search {known : List String} {edges : List Edge} {path : List Frame}
    {visited finished result : List String} {fuel : Nat}
    (h : Progress known edges path visited finished)
    (hfuel : remaining known edges path visited ≤ fuel)
    (hresult : search known edges fuel path visited = some result) :
    visited ⊆ result ∧ ∃ finished, Progress known edges [] result finished := by
  -- one case for each equation of the search; the fuel pays for the tries that remain
  fun_induction search known edges fuel path visited generalizing finished with
  | case1 fuel visited =>
    obtain rfl := Option.some.inj hresult
    exact ⟨List.Subset.refl _, finished, h⟩
  | case2 visited frame path => simp [remaining] at hfuel
  | case3 fuel id path visited ih =>
    apply ih h.pop _ hresult
    simp [remaining] at hfuel ⊢
    omega
  | case4 => simp at hresult
  | case5 fuel id next rest path visited hpath hnew ih =>
    obtain ⟨hvisited, hknown⟩ : next ∉ visited ∧ next ∈ known := by simpa using hnew
    have hless : remaining known edges ((id, rest) :: path) visited ≤ fuel := by
      simp [remaining] at hfuel ⊢
      omega
    obtain ⟨hsubset, hfinished⟩ :=
      ih (h.push hvisited) (by rwa [remaining_push hknown hvisited]) hresult
    exact ⟨fun other ho => hsubset (List.mem_cons_of_mem next ho), hfinished⟩
  | case6 fuel id next rest path visited hpath hold ih =>
    apply ih (h.skip _) _ hresult
    · intro hknown
      have hvisited : next ∈ visited := by
        simpa [hknown] using hold
      have := (h.mem_visited next).mp hvisited
      simp [trail] at this hpath
      grind
    · simp [remaining] at hfuel ⊢
      omega

variable {nodes : List Node} {edges : List Edge} {visited finished result : List String}

theorem remaining_root_le {id : String} (hid : id ∈ nodes.map Node.id) (hnew : id ∉ visited) :
    remaining (nodes.map Node.id) edges [(id, Edge.successors edges id)] (id :: visited) ≤
      nodes.length + edges.length := by
  rw [remaining_push hid hnew]
  calc
    remaining (nodes.map Node.id) edges [] visited ≤ ∑ id ∈
      (nodes.map Node.id).toFinset, tries edges id := by
      simp only [remaining, List.map_nil, List.sum_nil, Nat.zero_add]
      exact Finset.sum_le_sum_of_subset Finset.sdiff_subset
    _ ≤ nodes.length + edges.length := by
      simpa using sum_tries_le (nodes.map Node.id) edges

theorem exists_finished_of_searchFrom {id : String} (hid : id ∈ nodes.map Node.id)
    (h : Progress (nodes.map Node.id) edges [] visited finished)
    (hresult : searchFrom nodes edges visited id = some result) :
    id ∈ result ∧ visited ⊆ result ∧ ∃ finished,
    Progress (nodes.map Node.id) edges [] result finished := by
  rw [searchFrom] at hresult
  split at hresult
  · next hvisited =>
    obtain rfl := Option.some.inj hresult
    exact ⟨by simpa using hvisited, List.Subset.refl _, finished, h⟩
  · next hnew =>
    have hnew : id ∉ visited := by simpa using hnew
    obtain ⟨hsubset, hfinished⟩ :=
      exists_finished_of_search (h.root hnew) (remaining_root_le hid hnew) hresult
    exact ⟨hsubset (by simp), fun other ho => hsubset (List.mem_cons_of_mem id ho), hfinished⟩

theorem exists_finished_of_foldlM (roots : List String)
    (hroots : ∀ id ∈ roots, id ∈ nodes.map Node.id)
    (h : Progress (nodes.map Node.id) edges [] visited finished)
    (hresult : roots.foldlM (searchFrom nodes edges) visited = some result) :
    (∀ id ∈ roots, id ∈ result) ∧ visited ⊆ result ∧
      ∃ finished, Progress (nodes.map Node.id) edges [] result finished := by
  induction roots generalizing visited finished with
  | nil =>
    obtain rfl := Option.some.inj hresult
    exact ⟨by simp, List.Subset.refl _, finished, h⟩
  | cons id roots ih =>
    rw [List.foldlM_cons] at hresult
    obtain ⟨between, hfirst, hrest⟩ := Option.bind_eq_some_iff.mp hresult
    obtain ⟨hid, hsubset, between', hbetween⟩ :=
      exists_finished_of_searchFrom (hroots id (by simp)) h hfirst
    obtain ⟨hmem, hsubset', hfinished⟩ :=
      ih (fun other ho => hroots other (by simp [ho])) hbetween hrest
    refine ⟨?_, fun other ho => hsubset' (hsubset ho), hfinished⟩
    intro other ho
    rcases List.mem_cons.mp ho with rfl | ho
    · exact hsubset' hid
    · exact hmem other ho

end Cycle

theorem exists_arrangement {nodes : List Node} {edges : List Edge}
    (h : hasCycle nodes edges = false) :
    ∃ arrangement : List String, arrangement.Nodup ∧ (∀ id ∈ nodes.map Node.id, id ∈ arrangement) ∧
      ∀ edge ∈ edges, edge.source ∈ nodes.map Node.id → edge.target ∈ nodes.map Node.id →
        Before arrangement edge.source edge.target := by
  obtain ⟨visited, hvisited⟩ : ∃ visited,
      (nodes.map Node.id).foldlM (Cycle.searchFrom nodes edges) [] = some visited := by
    simpa [hasCycle, Option.isNone_eq_false_iff, Option.isSome_iff_exists] using h
  have hstart : Cycle.Progress (nodes.map Node.id) edges [] [] [] := by
    constructor <;> simp [Cycle.trail]
  obtain ⟨hroots, _, finished, hfinished⟩ :=
    Cycle.exists_finished_of_foldlM (nodes.map Node.id) (fun _ hid => hid) hstart hvisited
  have hmem : ∀ id ∈ nodes.map Node.id, id ∈ finished := by
    intro id hid
    simpa [Cycle.trail] using (hfinished.mem_visited id).mp (hroots id hid)
  refine ⟨finished, by simpa [Cycle.trail] using hfinished.nodup, hmem, ?_⟩
  intro edge he hsource htarget
  simpa [Cycle.trail] using
    hfinished.forward edge he (by simpa [Cycle.trail] using hmem _ hsource) htarget

end Flowplan
