import Flowplan.Proofs.Graph.Acyclic
import Flowplan.Proofs.Graph.Order

namespace Flowplan

open Relation Flowplan.Cycle

namespace Order

/-- Ids are taken from the queue until it is empty, however long that takes. -/
inductive Drains (known : List String) (edges : List Edge) :
    List String → List String → List String → Prop
  | empty (released) : Drains known edges [] released []
  | take {id queue released targets rest} :
      targets = (if known.contains id then Edge.successors edges id else []) →
    Drains known edges (queue ++ (release edges targets released).1)
      (release edges targets released).2 rest →
    Drains known edges (id :: queue) released (id :: rest)

theorem Progress.drains {known : List String} {edges : List Edge}
    {done queue released : List String} {fuel : Nat} (h : Progress known edges done queue released)
    (hfuel : known.length + edges.length ≤ done.length + fuel) :
    Drains known edges queue released (Order.drain known edges fuel queue released) := by
  induction fuel generalizing done queue released with
  | zero =>
    have hle := h.length_le
    have hqueue : queue = [] := List.length_eq_zero_iff.mp (by omega)
    subst hqueue
    exact .empty released
  | succ fuel ih =>
    cases queue with
    | nil => exact .empty released
    | cons id queue => exact .take rfl (ih (h.take rfl) (by simp; omega))

/-- A step that never becomes ready: it lies on a cycle, or an edge
leads to it from a step that is not there. -/
def Stuck (known : List String) (edges : List Edge) (id : String) : Prop :=
  TransGen (Leads known edges) id id ∨ ∃ edge ∈ edges, edge.target = id ∧ edge.source ∉ known

variable {nodes : List Node} {edges : List Edge} {a b id : String}

section Ordered

variable (h : (nodes.map Node.id).Nodup)

include h

theorem drains_orderedIds (edges : List Edge) :
    Drains (nodes.map Node.id) edges ((nodes.map Node.id).filter (Edge.indegree edges · == 0)) []
      (orderedIds nodes edges) := by
  have hfuel : (nodes.map Node.id).length + edges.length ≤
      ([] : List String).length + (nodes.length + edges.length) := by
    simp
  exact (Progress.start h edges).drains hfuel

theorem mem_of_leads (hab : Leads (nodes.map Node.id) edges a b) (hb : b ∈ orderedIds nodes edges) :
    a ∈ orderedIds nodes edges := by
  obtain ⟨_, _, hsuccessor⟩ := hab
  obtain ⟨edge, he, rfl, rfl⟩ := mem_successors.mp hsuccessor
  exact (((mem_orderedIds_iff h).mp hb).2 edge he rfl).2

theorem before_of_leads (hab : Leads (nodes.map Node.id) edges a b)
    (hb : b ∈ orderedIds nodes edges) : Before (orderedIds nodes edges) a b := by
  obtain ⟨_, _, hsuccessor⟩ := hab
  obtain ⟨edge, he, rfl, rfl⟩ := mem_successors.mp hsuccessor
  exact before_orderedIds h he hb

theorem mem_of_reflTransGen (hab : ReflTransGen (Leads (nodes.map Node.id) edges) a b)
    (hb : b ∈ orderedIds nodes edges) : a ∈ orderedIds nodes edges := by
  induction hab with
  | refl => exact hb
  | tail _ hleads ih => exact ih (mem_of_leads h hleads hb)

theorem before_of_leads_path (hab : TransGen (Leads (nodes.map Node.id) edges) a b)
    (hb : b ∈ orderedIds nodes edges) : Before (orderedIds nodes edges) a b := by
  induction hab with
  | single hleads => exact before_of_leads h hleads hb
  | tail _ hleads ih =>
    exact (ih (mem_of_leads h hleads hb)).trans (nodup_orderedIds h) (before_of_leads h hleads hb)

theorem not_stuck_of_mem (hid : id ∈ orderedIds nodes edges) :
    ¬ Stuck (nodes.map Node.id) edges id := by
  rintro (hcycle | ⟨edge, he, rfl, hunknown⟩)
  · exact Before.irrefl (nodup_orderedIds h) (before_of_leads_path h hcycle hid)
  · exact hunknown (((mem_orderedIds_iff h).mp hid).2 edge he rfl).1

theorem mem_orderedIds_of_not_stuck (hid : id ∈ nodes.map Node.id)
    (hfree : ∀ origin, ReflTransGen (Leads (nodes.map Node.id) edges) origin id →
      ¬ Stuck (nodes.map Node.id) edges origin) : id ∈ orderedIds nodes edges := by
  classical
  -- the steps before the id have no cycle among them, so they can be
  -- arranged with all edges forward
  let prior := nodes.filter fun node => ReflTransGen (Leads (nodes.map Node.id) edges) node.id id
  have hprior : ∀ other, other ∈ prior.map Node.id ↔
      other ∈ nodes.map Node.id ∧ ReflTransGen (Leads (nodes.map Node.id) edges) other id := by
    intro other
    simp only [prior, List.mem_map, List.mem_filter, decide_eq_true_eq]
    grind
  have hacyclic : hasCycle prior edges = false := by
    by_contra hcycle
    obtain ⟨origin, horigin⟩ := exists_cycle_of_hasCycle (Bool.not_eq_false _ ▸ hcycle)
    have hleads : ∀ a b, Leads (prior.map Node.id) edges a b →
        Leads (nodes.map Node.id) edges a b :=
      fun a b hab => ⟨((hprior a).mp hab.1).1, ((hprior b).mp hab.2.1).1, hab.2.2⟩
    obtain ⟨_, hfirst, _⟩ := TransGen.head'_iff.mp horigin
    exact hfree origin ((hprior origin).mp hfirst.1).2 (.inl (TransGen.mono hleads _ _ horigin))
  obtain ⟨arrangement, hnodup, hids, hforward⟩ := exists_arrangement hacyclic
  have hordered : ∀ other ∈ arrangement, other ∈ prior.map Node.id →
      other ∈ orderedIds nodes edges := by
    refine before_induction (P := fun other => other ∈ prior.map Node.id →
      other ∈ orderedIds nodes edges) hnodup ?_
    intro other _ ih hother
    obtain ⟨hknown, hpath⟩ := (hprior other).mp hother
    refine (mem_orderedIds_iff h).mpr ⟨.inl hknown, fun edge he htarget => ?_⟩
    have hsource : edge.source ∈ nodes.map Node.id := by
      by_contra hunknown
      exact hfree other hpath (.inr ⟨edge, he, htarget, hunknown⟩)
    have hleads : Leads (nodes.map Node.id) edges edge.source other :=
      ⟨hsource, hknown, mem_successors.mpr ⟨edge, he, rfl, htarget⟩⟩
    have hmem : edge.source ∈ prior.map Node.id :=
      (hprior edge.source).mpr ⟨hsource, .head hleads hpath⟩
    exact ⟨hsource, ih edge.source (htarget ▸ hforward edge he hmem (htarget ▸ hother)) hmem⟩
  have hid' : id ∈ prior.map Node.id := (hprior id).mpr ⟨hid, .refl⟩
  exact hordered id (hids id hid') hid'

end Ordered

end Order

open Flowplan.Order

variable {nodes : List Node} {edges : List Edge}

theorem mem_map_id_topologicalOrder {id : String} :
    id ∈ (topologicalOrder nodes edges).map Node.id ↔
      id ∈ orderedIds nodes edges ∧ id ∈ nodes.map Node.id := by
  rw [map_id_topologicalOrder, List.mem_filter, List.contains_iff_mem]

theorem notMem_topologicalOrder_iff (h : (nodes.map Node.id).Nodup) {node : Node}
    (hnode : node ∈ nodes) :
    node ∉ topologicalOrder nodes edges ↔ ∃ origin ∈ nodes,
      Stuck (nodes.map Node.id) edges origin.id ∧
      ReflTransGen (Leads (nodes.map Node.id) edges) origin.id node.id := by
  have hid : node.id ∈ nodes.map Node.id := List.mem_map_of_mem hnode
  constructor
  · intro hout
    by_contra! hfree
    refine hout (mem_topologicalOrder_of_id h hnode (mem_map_id_topologicalOrder.mpr ⟨?_, hid⟩))
    refine mem_orderedIds_of_not_stuck h hid fun origin hpath hstuck => ?_
    have horigin : origin ∈ nodes.map Node.id := by
      rcases ReflTransGen.cases_head hpath with rfl | ⟨_, hfirst, _⟩
      · exact hid
      · exact hfirst.1
    obtain ⟨first, hfirst, rfl⟩ := List.mem_map.mp horigin
    exact hfree first hfirst hstuck hpath
  · rintro ⟨origin, _, hstuck, hpath⟩ hmem
    have hordered := (mem_map_id_topologicalOrder.mp (List.mem_map_of_mem hmem)).1
    exact not_stuck_of_mem h (mem_of_reflTransGen h hpath hordered) hstuck

theorem topologicalOrder_perm_iff (h : (nodes.map Node.id).Nodup) :
    (topologicalOrder nodes edges).Perm nodes ↔
      ∀ node ∈ nodes, node ∈ topologicalOrder nodes edges := by
  refine ⟨fun hperm node hnode => hperm.mem_iff.mpr hnode, fun hall => ?_⟩
  refine (List.perm_ext_iff_of_nodup (nodup_topologicalOrder h).of_map h.of_map).mpr fun node => ?_
  exact ⟨mem_of_mem_topologicalOrder, hall node⟩

theorem topologicalOrder_perm_iff_acyclic (h : (nodes.map Node.id).Nodup)
    (hends : ∀ edge ∈ edges, edge.source ∈ nodes.map Node.id) :
    (topologicalOrder nodes edges).Perm nodes ↔
      ∀ id, ¬ TransGen (Leads (nodes.map Node.id) edges) id id := by
  rw [topologicalOrder_perm_iff h]
  constructor
  · intro hall id hcycle
    obtain ⟨_, hfirst, _⟩ := TransGen.head'_iff.mp hcycle
    obtain ⟨node, hnode, rfl⟩ := List.mem_map.mp hfirst.1
    exact (notMem_topologicalOrder_iff h hnode).mpr ⟨node, hnode, .inl hcycle, .refl⟩
      (hall node hnode)
  · intro hacyclic node hnode
    by_contra hout
    obtain ⟨origin, _, hstuck, _⟩ := (notMem_topologicalOrder_iff h hnode).mp hout
    rcases hstuck with hcycle | ⟨edge, he, _, hunknown⟩
    · exact hacyclic origin.id hcycle
    · exact hunknown (hends edge he)

/-- The order is exact, whatever the edges are: the queue runs empty; each step comes once at
most, and after all steps that lead to it; a step is left out if and only if it comes after, or
is, one on a cycle or one that an unknown step leads to; and so no step is left out of a graph
without cycles whose edges have known ends. -/
theorem topologicalOrder_exact (h : (nodes.map Node.id).Nodup) (edges : List Edge) :
    Drains (nodes.map Node.id) edges ((nodes.map Node.id).filter (Edge.indegree edges · == 0)) []
      (orderedIds nodes edges) ∧
    topologicalOrder nodes edges ⊆ nodes ∧ ((topologicalOrder nodes edges).map Node.id).Nodup ∧
    (∀ edge ∈ edges, edge.target ∈ (topologicalOrder nodes edges).map Node.id →
      Before ((topologicalOrder nodes edges).map Node.id) edge.source edge.target) ∧
    (∀ node ∈ nodes, node ∉ topologicalOrder nodes edges ↔ ∃ origin ∈ nodes,
      Stuck (nodes.map Node.id) edges origin.id ∧
        ReflTransGen (Leads (nodes.map Node.id) edges) origin.id node.id) ∧
    ((∀ edge ∈ edges, edge.source ∈ nodes.map Node.id ∧ edge.target ∈ nodes.map Node.id) →
      (∀ id, ¬ TransGen (Leads (nodes.map Node.id) edges) id id) →
      (topologicalOrder nodes edges).Perm nodes) := by
  refine ⟨drains_orderedIds h edges, fun _ => mem_of_mem_topologicalOrder, nodup_topologicalOrder h,
    ?_, ?_, ?_⟩
  · exact fun edge he htarget => before_topologicalOrder h he htarget
  · exact fun node hnode => notMem_topologicalOrder_iff h hnode
  · intro hends hacyclic
    exact (topologicalOrder_perm_iff_acyclic h fun edge he => (hends edge he).1).mpr hacyclic

def plainCall (id : String) : Node := ⟨id, "http.call", [], [], none⟩

def tangled : Graph where
  nodes := [
    plainCall "behind", plainCall "lost", plainCall "join", plainCall "spin", plainCall "start"]
  edges := [
    ⟨"start", "join", none⟩, ⟨"start", "join", some "flow_input.a"⟩, ⟨"start", "ghost", none⟩,
    ⟨"ghost", "lost", none⟩, ⟨"spin", "spin", none⟩, ⟨"spin", "behind", none⟩]
  onError := none

theorem left_out_tangled : (tangled.nodes.map Node.id).Nodup ∧
    (topologicalOrder tangled.nodes tangled.edges).map Node.id = ["start", "join"] ∧
    ∀ id ∈ ["behind", "lost", "spin"], ∃ origin ∈ tangled.nodes,
      Stuck (tangled.nodes.map Node.id) tangled.edges origin.id ∧
        ReflTransGen (Leads (tangled.nodes.map Node.id) tangled.edges) origin.id id := by
  have hnodup : (tangled.nodes.map Node.id).Nodup := by decide
  obtain ⟨_, _, _, _, hout, _⟩ := topologicalOrder_exact hnodup tangled.edges
  refine ⟨hnodup, by decide, fun id hid => ?_⟩
  have hstep : plainCall id ∈ tangled.nodes ∧
      plainCall id ∉ topologicalOrder tangled.nodes tangled.edges := by
    revert id
    decide
  exact (hout (plainCall id) hstep.1).mp hstep.2

end Flowplan
