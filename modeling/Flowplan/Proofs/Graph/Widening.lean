import Flowplan.Proofs.Graph.WellFormed
import Flowplan.Proofs.Plan.Compiled

/-!
# Wider registries

Of all checks of a graph only that of its types looks at the registry, so a registry that
knows more types accepts more graphs. An empty registry breaks the rule: it counts as none,
and its graphs are held against the built-in types.
-/

namespace Flowplan

namespace Registry

variable {offered : Registry}

theorem effective_of_eq_nil (h : offered.entries = []) : effective (some offered) = builtIn := by
  simp [effective, h]

theorem effective_of_ne_nil (h : offered.entries ≠ []) : effective (some offered) = offered := by
  simp [effective, h]

end Registry

namespace Graph

variable {registry other smaller larger : Registry} {graph : Graph}

theorem isValid_iff_of_isValid (h : graph.isValid registry = true) :
    graph.isValid other = true ↔ ∀ node ∈ graph.nodes, node.kind ∈ other.entries.names := by
  rw [isValid_iff_checks] at h ⊢
  obtain ⟨hids, _, hrest⟩ := h
  rw [← unknownTypes_eq_nil_iff]
  exact ⟨fun h => h.2.1, fun h => ⟨hids, h, hrest⟩⟩

theorem isValid_of_subset (hsub : smaller.entries.names ⊆ larger.entries.names)
    (h : graph.isValid smaller = true) : graph.isValid larger = true := by
  have htypes := (isValid_iff_of_isValid h).mp h
  exact (isValid_iff_of_isValid h).mpr fun node hnode => hsub (htypes node hnode)

def single (kind : String) : Graph := ⟨[.bare "send" kind], [], none⟩

theorem isValid_single_iff {kind : String} :
    (single kind).isValid registry = true ↔ kind ∈ registry.entries.names := by
  have hnode : (∀ node ∈ (single kind).nodes, node.kind ∈ registry.entries.names) ↔
      kind ∈ registry.entries.names := by
    simp [single, Node.bare]
  rw [isValid_iff_checks, unknownTypes_eq_nil_iff, hnode]
  -- the other checks do not look at the type
  have hcycle : hasCycle (single kind).nodes (single kind).edges = false := rfl
  have hreferences : ∀ node ∈ (single kind).nodes, (single kind).brokenReferences node = [] := by
    simp [single, Node.bare, brokenReferences]
  exact ⟨fun h => h.2.1, fun h => ⟨rfl, h, rfl, hcycle, hreferences, rfl, rfl, rfl⟩⟩

/-- A registry that knows all the types of another accepts the graphs that the other accepts,
unless the other is empty and it is not. Then it accepts just those graphs of built-in types of
which it knows all types, and all of them only if it knows all built-in types. -/
theorem isValid_widened_iff (hsub : smaller.entries.names ⊆ larger.entries.names) :
    (∀ graph : Graph, graph.isValid (.effective (some smaller)) = true →
      (graph.isValid (.effective (some larger)) = true ↔
        (smaller.entries = [] → larger.entries ≠ [] →
        ∀ node ∈ graph.nodes, node.kind ∈ larger.entries.names))) ∧
    ((∀ graph : Graph, graph.isValid (.effective (some smaller)) = true →
        graph.isValid (.effective (some larger)) = true) ↔
      (smaller.entries = [] → larger.entries ≠ [] →
        Registry.builtIn.entries.names ⊆ larger.entries.names)) := by
  by_cases hsmaller : smaller.entries = []
  · rw [Registry.effective_of_eq_nil hsmaller]
    by_cases hlarger : larger.entries = []
    · simp [Registry.effective_of_eq_nil hlarger, hlarger]
    · rw [Registry.effective_of_ne_nil hlarger]
      simp only [hsmaller, hlarger, ne_eq, not_false_eq_true, forall_const]
      refine ⟨fun graph hvalid => isValid_iff_of_isValid hvalid, ?_,
        fun hknown graph => isValid_of_subset hknown⟩
      intro haccepts kind hkind
      exact isValid_single_iff.mp (haccepts (single kind) (isValid_single_iff.mpr hkind))
  · have hlarger : larger.entries ≠ [] := by
      intro hnil
      rw [hnil] at hsub
      exact hsmaller (List.map_eq_nil_iff.mp (List.subset_nil.mp hsub))
    rw [Registry.effective_of_ne_nil hsmaller, Registry.effective_of_ne_nil hlarger]
    have haccepts : ∀ graph : Graph, graph.isValid smaller = true → graph.isValid larger = true :=
      fun graph => isValid_of_subset hsub
    exact ⟨fun graph hvalid => iff_of_true (haccepts graph hvalid) fun h => absurd h hsmaller,
      iff_of_true haccepts fun h => absurd h hsmaller⟩

def callsOnly : Registry := ⟨[("http.call", .executable "f/nodes/http_call")]⟩

def callsAndPauses : Registry :=
  ⟨[(StepType.wait, .native), ("http.call", .executable "f/nodes/http_call")]⟩

theorem isValid_widened_callsOnly : callsOnly.entries.names ⊆ callsAndPauses.entries.names ∧
    (single "http.call").isValid (.effective (some callsOnly)) = true ∧
    (single "http.call").isValid (.effective (some callsAndPauses)) = true := by
  have hsub : callsOnly.entries.names ⊆ callsAndPauses.entries.names := by decide
  have hvalid : (single "http.call").isValid (.effective (some callsOnly)) = true := by decide
  refine ⟨hsub, hvalid, (isValid_widened_iff hsub).2.mpr ?_ (single "http.call") hvalid⟩
  exact fun h => absurd h (by decide)

def pausesOnly : Registry := ⟨[(StepType.wait, .native)]⟩

/-- An empty registry knows no type, and it accepts a call that a registry of pauses does not. -/
theorem not_isValid_pausesOnly : (Registry.mk []).entries.names ⊆ pausesOnly.entries.names ∧
    (single "http.call").isValid (.effective (some ⟨[]⟩)) = true ∧
    (single "http.call").isValid (.effective (some pausesOnly)) = false := by
  decide

end Graph

end Flowplan
