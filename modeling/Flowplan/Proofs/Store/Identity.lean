import Flowplan.Proofs.Interleaving
import Mathlib.Data.List.Pairwise

namespace Flowplan

structure Identity where
  id : String
  appId : String
  name : String
  signature : String
  signatureName : String
  flowPath : Option String
deriving DecidableEq

structure Identity.Apart (a b : Identity) : Prop where
  id : a.id ≠ b.id
  signature : a.appId = b.appId → a.signature ≠ b.signature
  name : a.appId = b.appId → a.signatureName ≠ b.signatureName

instance : Std.Symm Identity.Apart where
  symm _ _ h :=
    ⟨h.id.symm, fun happ => (h.signature happ.symm).symm, fun happ => (h.name happ.symm).symm⟩

def Workflow.identity (w : Workflow) : Identity :=
  ⟨w.id, w.appId, w.name, w.signature, w.signatureName, w.flowPath⟩

namespace Store

variable {store store' : Store} {draft : Draft} {workflow : Workflow} {freshId : String}
  {now : Time}

def identities (store : Store) : List Identity := store.workflows.map Workflow.identity

theorem mem_identities (h : workflow ∈ store.workflows) : workflow.identity ∈ store.identities :=
  List.mem_map_of_mem h

@[simp] theorem identity_settleWorkflow (w : Workflow) : (settleWorkflow w).identity = w.identity :=
  rfl

def Sound (store : Store) : Prop := store.identities.Pairwise Identity.Apart

theorem Sound.eq_of_not_apart (h : store.Sound) {a b : Identity} (ha : a ∈ store.identities)
    (hb : b ∈ store.identities) (hapart : ¬ a.Apart b) : a = b := by
  by_contra hne
  exact hapart (List.Pairwise.forall h ha hb hne)

theorem admits_iff {others : List Workflow} :
    admits others workflow = true ↔ ∀ other ∈ others, other.identity.Apart workflow.identity := by
  simp only [admits, Bool.not_eq_true', List.any_eq_false, Workflow.clashes]
  refine forall₂_congr fun other _ => ?_
  constructor
  · intro h
    refine ⟨?_, ?_, ?_⟩ <;> simp_all [Workflow.identity]
  · rintro ⟨hid, hsignature, hname⟩
    simp_all [Workflow.identity]

theorem workflows_of_insert (h : store.insertWorkflow draft freshId now = .ok (workflow, store')) :
    store'.workflows = store.workflows ++ [settleWorkflow workflow] := by
  rw [insertWorkflow] at h
  split at h
  · cases h
  · split at h <;> cases h
    rfl

theorem identities_of_insert (h : store.insertWorkflow draft freshId now = .ok (workflow, store')) :
    draft.complete freshId now = some workflow ∧ store'.identities = store.identities
      ++ [workflow.identity] ∧
      ∀ other ∈ store.identities, other.Apart workflow.identity := by
  rw [insertWorkflow] at h
  split at h
  · cases h
  · next stored hcomplete =>
    split at h
    · next hadmits =>
      cases h
      refine ⟨hcomplete, ?_, ?_⟩
      · simp [identities]
      · simpa [identities] using admits_iff.mp hadmits
    · cases h

theorem exists_of_refuseInsert {failure : Failure}
    (hcomplete : draft.complete freshId now = some workflow)
    (h : store.insertWorkflow draft freshId now = .error failure) :
    failure = .constraint ∧ ∃ other ∈ store.identities, ¬ other.Apart workflow.identity := by
  rw [insertWorkflow, hcomplete] at h
  dsimp only at h
  split at h
  · cases h
  · next hadmits =>
    cases h
    rw [admits_iff] at hadmits
    obtain ⟨other, hother, hapart⟩ : ∃ other ∈ store.workflows,
        ¬ other.identity.Apart workflow.identity := by
      simpa using hadmits
    exact ⟨rfl, other.identity, mem_identities hother, hapart⟩

theorem workflow?_eq_some {id : String} (h : store.workflow? id = some workflow) :
    workflow ∈ store.workflows ∧ workflow.id = id :=
  ⟨List.mem_of_find?_eq_some h, by simpa using List.find?_some h⟩

theorem workflow?_of_liveWorkflow? {id : String} (h : store.liveWorkflow? id = some workflow) :
    store.workflow? id = some workflow :=
  (Option.filter_eq_some_iff.mp h).1

theorem exists_workflow? {identity : Identity} (hsound : store.Sound)
    (hmem : identity ∈ store.identities) :
    ∃ found, store.workflow? identity.id = some found ∧ found.identity = identity := by
  have hsome : (store.workflow? identity.id).isSome := by
    obtain ⟨w, hw, rfl⟩ := List.mem_map.mp hmem
    exact List.find?_isSome.mpr ⟨w, hw, beq_self_eq_true w.id⟩
  obtain ⟨found, hfound⟩ := Option.isSome_iff_exists.mp hsome
  obtain ⟨hstored, hid⟩ := workflow?_eq_some hfound
  exact ⟨found, hfound, hsound.eq_of_not_apart (mem_identities hstored) hmem fun hapart =>
      hapart.id hid⟩

section Update

variable {id : String} {change : Workflow → Workflow}

theorem updateWorkflow_eq_ok (hsound : store.Sound)
    (hchange : ∀ w, (change w).identity = w.identity)
    (hfound : store.workflow? id = some workflow) :
    store.updateWorkflow id change now = .ok ({ change workflow with updatedAt := now },
      { store with workflows := store.workflows.map fun w =>
          if w.id == id then settleWorkflow { change workflow with updatedAt := now }
          else w }) := by
  -- the others stand apart from the changed workflow as they did from the stored one
  have hadmits : admits (store.workflows.filter (·.id != id))
      { change workflow with updatedAt := now } = true := by
    obtain ⟨hmem, hid⟩ := workflow?_eq_some hfound
    refine admits_iff.mpr fun other hother => ?_
    obtain ⟨hother, hne⟩ := List.mem_filter.mp hother
    have hidentity : ({ change workflow with updatedAt := now } : Workflow).identity =
      workflow.identity := hchange workflow
    rw [hidentity]
    refine List.Pairwise.forall hsound (mem_identities hother) (mem_identities hmem) ?_
    intro heq
    have hsame : other.id = workflow.id := congrArg Identity.id heq
    simp [hsame, hid] at hne
  rw [updateWorkflow, hfound]
  dsimp only
  rw [if_pos hadmits]

theorem identities_of_update (hsound : store.Sound)
    (hchange : ∀ w, (change w).identity = w.identity)
    (h : store.updateWorkflow id change now = .ok (workflow, store')) :
    store'.identities = store.identities ∧
      ∃ found, store.workflow? id = some found ∧
        workflow = { change found with updatedAt := now } := by
  cases hfound : store.workflow? id with
  | none => simp [updateWorkflow, hfound] at h
  | some found =>
    rw [updateWorkflow_eq_ok hsound hchange hfound] at h
    cases h
    refine ⟨?_, found, rfl, rfl⟩
    obtain ⟨hmem, hid⟩ := workflow?_eq_some hfound
    simp only [identities, List.map_map]
    refine List.map_congr_left fun w hw => ?_
    by_cases h : w.id = id
    · have hsame : w.identity = found.identity := by
        refine hsound.eq_of_not_apart (mem_identities hw) (mem_identities hmem) fun hapart => ?_
        exact hapart.id (h.trans hid.symm)
      simp only [Function.comp_apply, h, BEq.rfl, if_true, identity_settleWorkflow, hsame]
      exact hchange found
    · simp [h]

end Update

structure Grows (earlier later : Store) : Prop where
  sound : later.Sound
  identities : earlier.identities <+: later.identities

theorem Grows.refl (h : store.Sound) : store.Grows store := ⟨h, List.prefix_rfl⟩

theorem Grows.trans {a b c : Store} (hab : a.Grows b) (hbc : b.Grows c) : a.Grows c :=
  ⟨hbc.sound, hab.identities.trans hbc.identities⟩

end Store

def Action.KeepsIdentity : Action → Prop
  | .updateWorkflow _ change => ∀ w, (change w).identity = w.identity
  | _ => True

namespace Store

theorem grows_of_answers {store store' : Store} {action : Action} {answer : action.Answer}
    (hkeeps : action.KeepsIdentity) (hsound : store.Sound)
    (h : store.Answers action answer store') : store.Grows store' := by
  cases h with
  | insertWorkflow hinsert =>
    obtain ⟨_, hidentities, hapart⟩ := identities_of_insert hinsert
    refine ⟨?_, hidentities ▸ List.prefix_append _ _⟩
    rw [Sound, hidentities]
    exact List.pairwise_append.mpr ⟨hsound, List.pairwise_singleton _ _, by simpa using hapart⟩
  | updateWorkflow hupdate =>
    obtain ⟨hidentities, _⟩ := identities_of_update hsound hkeeps hupdate
    exact ⟨by rwa [Sound, hidentities], hidentities ▸ List.prefix_rfl⟩
  | insertRun => exact ⟨hsound, List.prefix_rfl⟩
  | saveRun store copy =>
    have hworkflows : (store.saveRun copy).2.workflows = store.workflows := by
      rw [saveRun]
      split
      · rfl
      · split <;> rfl
    have hidentities : (store.saveRun copy).2.identities = store.identities := by
      rw [identities, hworkflows, identities]
    exact ⟨by rwa [Sound, hidentities], hidentities ▸ List.prefix_rfl⟩
  | _ => exact .refl hsound

end Store

end Flowplan
