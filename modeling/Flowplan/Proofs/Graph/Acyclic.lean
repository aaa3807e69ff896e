import Flowplan.Proofs.Graph.Cycle
import Mathlib.Logic.Relation

namespace Flowplan

open Relation

namespace Cycle

def Leads (known : List String) (edges : List Edge) (a b : String) : Prop :=
  a ∈ known ∧ b ∈ known ∧ b ∈ Edge.successors edges a

/-- A path is made of known ids, each with successors of its own left to try, and leads from its
root on. -/
structure Linked (known : List String) (edges : List Edge) (path : List Frame) : Prop where
  mem_known : ∀ frame ∈ path, frame.1 ∈ known
  pending : ∀ frame ∈ path, frame.2 ⊆ Edge.successors edges frame.1
  leads : path.Pairwise fun inner outer => TransGen (Leads known edges) outer.1 inner.1

namespace Linked

variable {known : List String} {edges : List Edge} {path : List Frame} {rest : List String}
  {id next : String}

theorem root (hid : id ∈ known) : Linked known edges [(id, Edge.successors edges id)] where
  mem_known := by simpa using hid
  pending := by simp
  leads := List.pairwise_singleton _ _

theorem pop (h : Linked known edges ((id, []) :: path)) : Linked known edges path where
  mem_known := (List.forall_mem_cons.mp h.mem_known).2
  pending := (List.forall_mem_cons.mp h.pending).2
  leads := (List.pairwise_cons.mp h.leads).2

theorem skip (h : Linked known edges ((id, next :: rest) :: path)) :
    Linked known edges ((id, rest) :: path) where
  mem_known := List.forall_mem_cons.mpr (List.forall_mem_cons.mp h.mem_known)
  pending := by
    obtain ⟨hid, hpath⟩ := List.forall_mem_cons.mp h.pending
    exact List.forall_mem_cons.mpr ⟨(List.cons_subset.mp hid).2, hpath⟩
  leads := List.pairwise_cons.mpr (List.pairwise_cons.mp h.leads)

theorem leads_next (h : Linked known edges ((id, next :: rest) :: path)) (hnext : next ∈ known) :
    Leads known edges id next :=
  ⟨h.mem_known _ List.mem_cons_self, hnext, h.pending _ List.mem_cons_self List.mem_cons_self⟩

theorem push (h : Linked known edges ((id, next :: rest) :: path)) (hnext : next ∈ known) :
    Linked known edges ((next, Edge.successors edges next) :: (id, rest) :: path) where
  mem_known := List.forall_mem_cons.mpr ⟨hnext, h.skip.mem_known⟩
  pending := List.forall_mem_cons.mpr ⟨List.Subset.refl _, h.skip.pending⟩
  leads := by
    have hlast := h.leads_next hnext
    refine List.pairwise_cons.mpr ⟨List.forall_mem_cons.mpr ⟨.single hlast, ?_⟩, h.skip.leads⟩
    intro outer houter
    exact ((List.pairwise_cons.mp h.leads).1 outer houter).tail hlast

theorem exists_cycle (h : Linked known edges ((id, next :: rest) :: path))
    (hback : next = id ∨ ∃ frame ∈ path, frame.1 = next) :
    ∃ id, TransGen (Leads known edges) id id := by
  rcases hback with rfl | ⟨frame, hframe, rfl⟩
  · exact ⟨next, .single (h.leads_next (h.mem_known _ List.mem_cons_self))⟩
  · have hlast := h.leads_next (h.mem_known _ (List.mem_cons_of_mem _ hframe))
    exact ⟨frame.1, ((List.pairwise_cons.mp h.leads).1 frame hframe).tail hlast⟩

end Linked

theorem exists_cycle_of_search {known : List String} {edges : List Edge} {fuel : Nat}
    {path : List Frame} {visited : List String} (h : Linked known edges path)
    (hnone : search known edges fuel path visited = none) :
    ∃ id, TransGen (Leads known edges) id id := by
  fun_induction search known edges fuel path visited with
  | case1 fuel visited => cases hnone
  | case2 visited frame path => cases hnone
  | case3 fuel id path visited ih => exact ih h.pop hnone
  | case4 fuel id next rest path visited hback =>
    refine h.exists_cycle ?_
    simpa using hback
  | case5 fuel id next rest path visited hpath hnew ih =>
    obtain ⟨_, hknown⟩ : next ∉ visited ∧ next ∈ known := by simpa using hnew
    exact ih (h.push hknown) hnone
  | case6 fuel id next rest path visited hpath hold ih => exact ih h.skip hnone

variable {nodes : List Node} {edges : List Edge}

theorem exists_cycle_of_foldlM (roots visited : List String)
    (hroots : ∀ id ∈ roots, id ∈ nodes.map Node.id)
    (hnone : roots.foldlM (searchFrom nodes edges) visited = none) :
    ∃ id, TransGen (Leads (nodes.map Node.id) edges) id id := by
  induction roots generalizing visited with
  | nil => cases hnone
  | cons id roots ih =>
    obtain ⟨hid, hroots⟩ := List.forall_mem_cons.mp hroots
    rw [List.foldlM_cons] at hnone
    cases hfirst : searchFrom nodes edges visited id with
    | none =>
      rw [searchFrom] at hfirst
      split at hfirst
      · cases hfirst
      · exact exists_cycle_of_search (.root hid) hfirst
    | some result =>
      rw [hfirst] at hnone
      exact ih result hroots hnone

end Cycle

open Flowplan.Cycle

variable {nodes : List Node} {edges : List Edge}

theorem exists_cycle_of_hasCycle (h : hasCycle nodes edges = true) :
    ∃ id, TransGen (Leads (nodes.map Node.id) edges) id id :=
  exists_cycle_of_foldlM (nodes.map Node.id) [] (fun _ hid => hid) (Option.isNone_iff_eq_none.mp h)

theorem before_of_transGen {known arrangement : List String} {a b : String}
    (hnodup : arrangement.Nodup)
    (hforward : ∀ edge ∈ edges, edge.source ∈ known → edge.target ∈ known →
      Before arrangement edge.source edge.target)
    (h : TransGen (Leads known edges) a b) : Before arrangement a b := by
  have hstep : ∀ {a b}, Leads known edges a b → Before arrangement a b := by
    rintro a b ⟨ha, hb, hsuccessor⟩
    obtain ⟨edge, he, rfl, rfl⟩ := mem_successors.mp hsuccessor
    exact hforward edge he ha hb
  induction h with
  | single hleads => exact hstep hleads
  | tail _ hleads ih => exact ih.trans hnodup (hstep hleads)

theorem acyclic_of_hasCycle_eq_false (h : hasCycle nodes edges = false) (id : String) :
    ¬ TransGen (Leads (nodes.map Node.id) edges) id id := by
  obtain ⟨arrangement, hnodup, _, hforward⟩ := exists_arrangement h
  exact fun hcycle => Before.irrefl hnodup (before_of_transGen hnodup hforward hcycle)

theorem exists_entry (h : hasCycle nodes edges = false) (hnodes : nodes ≠ [])
    (hends : ∀ edge ∈ edges, edge.source ∈ nodes.map Node.id) :
    ∃ node ∈ nodes, ∀ edge ∈ edges, edge.target ≠ node.id := by
  obtain ⟨arrangement, hnodup, hids, hforward⟩ := exists_arrangement h
  by_contra! hentered
  have hnone : ∀ id ∈ arrangement, id ∉ nodes.map Node.id := by
    refine before_induction (P := fun id => id ∉ nodes.map Node.id) hnodup ?_
    intro id _ ih hid
    obtain ⟨node, hnode, rfl⟩ := List.mem_map.mp hid
    obtain ⟨edge, he, htarget⟩ := hentered node hnode
    exact ih edge.source (htarget ▸ hforward edge he (hends edge he) (htarget ▸ hid))
      (hends edge he)
  obtain ⟨node, hnode⟩ := List.exists_mem_of_ne_nil nodes hnodes
  have hid := List.mem_map_of_mem (f := Node.id) hnode
  exact hnone node.id (hids _ hid) hid

end Flowplan
