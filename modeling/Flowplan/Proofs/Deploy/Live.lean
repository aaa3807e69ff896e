import Flowplan.Proofs.Deploy.Flows

namespace Flowplan

/-- A workflow as deployments store it: its name is a slug, and its
path tells its app and its name. -/
structure Identity.Deployed (i : Identity) : Prop where
  slug : Text.IsSlug i.signatureName
  flowPath : i.flowPath = some (Signature.flowPath i.appId i.signatureName)

namespace Store

variable {store store' : Store} {path : String} {workflow : Workflow}

theorem Sound.eq_of_id (h : store.Sound) {v w : Workflow} (hv : v ∈ store.workflows)
    (hw : w ∈ store.workflows) (hid : v.id = w.id) : v = w := by
  have hnodup : (store.workflows.map Workflow.id).Nodup :=
    List.pairwise_map.mpr ((List.pairwise_map.mp h).imp fun hapart => hapart.id)
  exact List.inj_on_of_nodup_map hnodup hv hw hid

theorem Sound.workflow?_of_mem (h : store.Sound) (hmem : workflow ∈ store.workflows) :
    store.workflow? workflow.id = some workflow := by
  obtain ⟨found, hfound, _⟩ := exists_workflow? h (mem_identities hmem)
  obtain ⟨hstored, hid⟩ := workflow?_eq_some hfound
  exact h.eq_of_id hstored hmem hid ▸ hfound

structure Deployed (store : Store) : Prop where
  sound : store.Sound
  deployed : ∀ i ∈ store.identities, i.Deployed

def Live (store : Store) (path : String) : Prop :=
  ∃ w ∈ store.workflows, w.flowPath = some path ∧ w.isDeleted = false

theorem Deployed.eq_of_flowPath (h : store.Deployed) {a b : Identity} (ha : a ∈ store.identities)
    (hb : b ∈ store.identities) (hpath : a.flowPath = b.flowPath) : a = b := by
  rw [(h.deployed a ha).flowPath, (h.deployed b hb).flowPath] at hpath
  obtain ⟨happ, hname⟩ :=
    Signature.eq_of_flowPath (h.deployed a ha).slug (h.deployed b hb).slug (Option.some.inj hpath)
  exact h.sound.eq_of_not_apart ha hb fun hapart => hapart.name happ hname

theorem Deployed.live_iff (h : store.Deployed) (hmem : workflow ∈ store.workflows)
    (hpath : workflow.flowPath = some path) : store.Live path ↔ workflow.isDeleted = false := by
  constructor
  · rintro ⟨w, hw, hwpath, hlive⟩
    have hidentity : w.identity = workflow.identity :=
      h.eq_of_flowPath (mem_identities hw) (mem_identities hmem) (hwpath.trans hpath.symm)
    exact h.sound.eq_of_id hw hmem (congrArg Identity.id hidentity) ▸ hlive
  · exact fun hlive => ⟨workflow, hmem, hpath, hlive⟩

section Update

variable {id : String} {change : Workflow → Workflow} {now : Time} {changed : Workflow}

theorem Deployed.update (h : store.Deployed) (hchange : ∀ w, (change w).identity = w.identity)
    (hupdate : store.updateWorkflow id change now = .ok (changed, store')) : store'.Deployed := by
  obtain ⟨hidentities, _⟩ := identities_of_update h.sound hchange hupdate
  exact ⟨by rw [Sound, hidentities]; exact h.sound, fun i hi => h.deployed i (hidentities ▸ hi)⟩

theorem Deployed.live_update (h : store.Deployed) (hchange : ∀ w, (change w).identity = w.identity)
    (hmem : workflow ∈ store.workflows) (hid : workflow.id = id)
    (hpath : workflow.flowPath = some path)
    (hupdate : store.updateWorkflow id change now = .ok (changed, store')) (other : String) :
    store'.Live other ↔ (other = path ∧ (change workflow).isDeleted = false) ∨
      (other ≠ path ∧ store.Live other) := by
  have hfound : store.workflow? id = some workflow := hid ▸ h.sound.workflow?_of_mem hmem
  rw [updateWorkflow_eq_ok h.sound hchange hfound] at hupdate
  cases hupdate
  have hchangedPath : (change workflow).flowPath = some path :=
    (congrArg Identity.flowPath (hchange workflow)).trans hpath
  constructor
  · rintro ⟨w, hw, hwpath, hlive⟩
    obtain ⟨v, hv, rfl⟩ := List.mem_map.mp hw
    by_cases hvid : v.id = id
    · left
      simp only [hvid, BEq.rfl, if_true] at hwpath hlive
      exact ⟨Option.some.inj (hwpath.symm.trans hchangedPath), hlive⟩
    · right
      simp only [beq_iff_eq, hvid, if_false] at hwpath hlive
      refine ⟨?_, v, hv, hwpath, hlive⟩
      -- a workflow with the flow of the changed one is the changed one
      rintro rfl
      have hsame :=
        h.eq_of_flowPath (mem_identities hv) (mem_identities hmem) (hwpath.trans hpath.symm)
      exact hvid ((congrArg Identity.id hsame).trans hid)
  · rintro (⟨rfl, hlive⟩ | ⟨hne, v, hv, hvpath, hlive⟩)
    · have hmem' : settleWorkflow { change workflow with updatedAt := now } ∈
        store.workflows.map fun w =>
          if w.id == id then settleWorkflow { change workflow with updatedAt := now } else w :=
        List.mem_map.mpr ⟨workflow, hmem, by simp [hid]⟩
      exact ⟨_, hmem', hchangedPath, hlive⟩
    · have hvid : v.id ≠ id := by
        intro hvid
        obtain rfl := h.sound.eq_of_id hv hmem (hvid.trans hid.symm)
        exact hne (Option.some.inj (hvpath.symm.trans hpath))
      refine ⟨v, List.mem_map.mpr ⟨v, hv, ?_⟩, hvpath, hlive⟩
      simp [hvid]

end Update

section Insert

variable {draft : Draft} {freshId : String} {now : Time}

theorem Deployed.insert (h : store.Deployed) (hdeployed : workflow.identity.Deployed)
    (hinsert : store.insertWorkflow draft freshId now = .ok (workflow, store')) :
    store'.Deployed := by
  obtain ⟨_, hidentities, hapart⟩ := identities_of_insert hinsert
  refine ⟨?_, fun i hi => ?_⟩
  · rw [Sound, hidentities]
    exact List.pairwise_append.mpr ⟨h.sound, List.pairwise_singleton _ _, by simpa using hapart⟩
  · rcases List.mem_append.mp (hidentities ▸ hi) with hi | hi
    · exact h.deployed i hi
    · exact List.mem_singleton.mp hi ▸ hdeployed

theorem live_insert (hpath : workflow.flowPath = some path) (hlive : workflow.isDeleted = false)
    (hinsert : store.insertWorkflow draft freshId now = .ok (workflow, store')) (other : String) :
    store'.Live other ↔ other = path ∨ store.Live other := by
  rw [Live, workflows_of_insert hinsert]
  constructor
  · rintro ⟨w, hw, hwpath, hwlive⟩
    rcases List.mem_append.mp hw with hw | hw
    · exact .inr ⟨w, hw, hwpath, hwlive⟩
    · obtain rfl := List.mem_singleton.mp hw
      exact .inl (Option.some.inj (hwpath.symm.trans hpath))
  · rintro (rfl | ⟨w, hw, hwpath, hwlive⟩)
    · exact ⟨settleWorkflow workflow, by simp, hpath, hlive⟩
    · exact ⟨w, by simp [hw], hwpath, hwlive⟩

theorem Deployed.not_live_insert (h : store.Deployed) (hdeployed : workflow.identity.Deployed)
    (hpath : workflow.flowPath = some path)
    (hinsert : store.insertWorkflow draft freshId now = .ok (workflow, store')) :
    ¬ store.Live path := by
  obtain ⟨_, hidentities, hapart⟩ := identities_of_insert hinsert
  rintro ⟨w, hw, hwpath, _⟩
  have hold : w.identity ∈ store'.identities := by simp [hidentities, mem_identities hw]
  have hnew : workflow.identity ∈ store'.identities := by simp [hidentities]
  have hsame := (h.insert hdeployed hinsert).eq_of_flowPath hold hnew (hwpath.trans hpath.symm)
  exact (hapart w.identity (mem_identities hw)).id (congrArg Identity.id hsame)

end Insert

end Store

end Flowplan
