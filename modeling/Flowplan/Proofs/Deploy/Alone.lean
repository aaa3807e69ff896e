import Flowplan.Proofs.Deploy.Conduct
import Flowplan.Proofs.Deploy.Live

namespace Flowplan

namespace Store

variable {α β : Type} {S T : Store} {h k : List Exchange} {path : String}

def Plain : (action : Action) → action.Answer → Prop
  | .engine _, .error failure => ∃ fault, failure = .engine fault
  | _, _ => True

/-- A store that nobody else works on, and what was asked so far. Pushes follow it. -/
def alone : Surroundings Action.Answer (Store × List Exchange) where
  answers s action answer t := s.1.Answers action answer t.1 ∧ Plain action answer ∧
    t.2 = s.2 ++ [⟨action, answer⟩]
  others s t := s = t
  allowed s action := ∀ call, action = .engine call → call.Follows s.2

def Agree (h k : List Exchange) : Prop := ∀ path, Wanted k path ↔ Wanted h path

theorem Agree.trans {l : List Exchange} (hk : Agree h k) (hl : Agree k l) : Agree h l :=
  fun path => (hl path).trans (hk path)

def Still (S : Store) (h : List Exchange) (s : Store × List Exchange) : Prop :=
  s.1 = S ∧ Agree h s.2

structure Consistent (s : Store × List Exchange) : Prop where
  deployed : s.1.Deployed
  wanted : ∀ path, Wanted s.2 path ↔ s.1.Live path

theorem Consistent.still {s : Store × List Exchange} (hs : Consistent (S, h))
    (hstill : Still S h s) : Consistent s :=
  ⟨hstill.1 ▸ hs.deployed, fun path => (hstill.2 path).trans (hstill.1 ▸ hs.wanted path)⟩

theorem agree_concat {action : Action} {answer : action.Answer}
    (haction : ∀ call, action ≠ .engine call) : Agree h (h ++ [⟨action, answer⟩]) := by
  intro path
  rw [wanted_concat]
  cases action with
  | engine call => exact absurd rfl (haction call)
  | _ => simp [Exchange.Creates, Exchange.Deletes]

theorem alone_ask_bind {post : Store × List Exchange → Except Failure β → Prop} {action : Action}
    {next : action.Answer → Procedure β} (haction : ∀ call, action ≠ .engine call)
    (hnext : ∀ answer T k, S.Answers action answer T → Agree h k →
      alone.Secures post (T, k) (next answer).run) :
    alone.Secures post (S, h) (Procedure.ask action >>= next).run := by
  rintro _ rfl
  refine ⟨fun call hcall => absurd hcall (haction call), ?_⟩
  rintro answer ⟨T, k⟩ ⟨hanswer, _, rfl⟩
  exact hnext answer T _ hanswer (agree_concat haction)

theorem alone_report_bind {post : Store × List Exchange → Except Failure β → Prop} {level : Level}
    {component message : String} {data : Entries Json} {runId : Option String}
    {next : Unit → Procedure β} (hnext : ∀ k, Agree h k → alone.Secures post (S, k) (next ()).run) :
    alone.Secures post (S, h) (Procedure.report level component message data runId >>=
      next).run := by
  refine alone_ask_bind (fun _ => by simp) fun _ T k hanswer hk => ?_
  cases hanswer
  exact hnext k hk

theorem alone_update_bind {post : Store × List Exchange → Except Failure β → Prop} {id : String}
    {change : Workflow → Workflow} {next : Workflow → Procedure β} {workflow : Workflow}
    (hS : S.Deployed) (hchange : ∀ w, (change w).identity = w.identity)
    (hmem : workflow ∈ S.workflows) (hid : workflow.id = id)
    (hnext : ∀ T k changed, (∃ now, S.updateWorkflow id change now = .ok (changed, T)) →
      changed.identity = workflow.identity → Agree h k → alone.Secures post (T, k)
      (next changed).run) :
    alone.Secures post (S, h) (Procedure.attempt (send (.updateWorkflow id change)) >>=
      next).run := by
  rintro _ rfl
  refine ⟨fun call hcall => by simp at hcall, ?_⟩
  rintro answer ⟨T, k⟩ ⟨hanswer, _, rfl⟩
  obtain ⟨changed, rfl, hidentity⟩ :=
    exists_ok_of_update hS.sound hchange (mem_identities hmem) hid hanswer
  cases hanswer with
  | updateWorkflow hupdate =>
    exact hnext T _ changed ⟨_, hupdate⟩ hidentity (agree_concat fun _ => by simp)

theorem alone_tryCall_bind {post : Store × List Exchange → Except Failure β → Prop}
    {call : EngineCall} {next : Except EngineFault call.Reply → Procedure β}
    (hfollows : call.Follows h)
    (hnext : ∀ outcome answer,
      alone.Secures post (S, h ++ [⟨.engine call, answer⟩]) (next outcome).run) :
    alone.Secures post (S, h) (Procedure.tryCall call >>= next).run := by
  rintro _ rfl
  refine ⟨fun call' hcall => Action.engine.inj hcall ▸ hfollows, ?_⟩
  rintro answer ⟨T, k⟩ ⟨hanswer, hplain, rfl⟩
  cases hanswer
  cases answer with
  | ok reply => exact hnext (.ok reply) (.ok reply)
  | error failure =>
    obtain ⟨fault, rfl⟩ := hplain
    exact hnext (.error fault) (.error (.engine fault))

end Store

namespace Deployer

open Store

variable {S T : Store} {h k : List Exchange} {c : Context} {request : DeployRequest}
  {existing : Workflow} {path signature : String}

theorem still_reports (entries : List LogEntry) : alone.Secures (fun s _ => Still S h s) (S, h)
    (entries.forM fun entry => (Procedure.ask (.report entry) : Procedure Unit)).run := by
  induction entries generalizing h with
  | nil => exact ⟨rfl, fun _ => Iff.rfl⟩
  | cons entry entries ih =>
    refine alone_ask_bind (fun _ => by simp) fun _ T k hanswer hk => ?_
    cases hanswer
    exact ih.imp fun s _ ⟨hS, hs⟩ => ⟨hS, hk.trans hs⟩

theorem still_compile (graph : Graph) (name : String) :
    alone.Secures (fun s _ => Still S h s) (S, h) (compile c graph name).run := by
  rw [compile]
  split
  · exact Surroundings.secures_run_bind (still_reports _) (fun _ _ hstill => hstill)
      fun _ _ hstill => hstill
  · exact ⟨rfl, fun _ => Iff.rfl⟩

theorem still_settlePush (path : String) (fault? : Option EngineFault) :
    alone.Secures (fun s _ => Still S h s) (S, h) (settlePush path fault?).run := by
  cases fault? with
  | none => exact ⟨rfl, fun _ => Iff.rfl⟩
  | some fault => exact alone_report_bind fun k hk => ⟨rfl, hk⟩

theorem wanted_push {workflow : Workflow} {plan : Plan} {create : Bool}
    (hengine : c.hasEngine = true) (hpath : workflow.path? = some path)
    (hwanted : Wanted h path ↔ create = false) :
    alone.Secures (fun s _ => s.1 = S ∧ ∀ other, Wanted s.2 other ↔
      other = path ∨ Wanted h other) (S, h)
      (push c workflow plan create).run := by
  have hsettled : ∀ k fault?, (∀ other, Wanted k other ↔ other = path ∨ Wanted h other) →
      alone.Secures (fun s _ => s.1 = S ∧ ∀ other, Wanted s.2 other ↔
        other = path ∨ Wanted h other) (S, k) (settlePush path fault?).run := fun k fault? hk =>
    (still_settlePush path fault?).imp fun s _ ⟨hS, hs⟩ =>
      ⟨hS, fun other => (hs other).trans (hk other)⟩
  rw [push, hpath, hengine]
  dsimp only
  cases create with
  | true =>
    rw [if_pos rfl, bind_map_left]
    have hpath' : ¬ Wanted h path := by simp [hwanted]
    refine alone_tryCall_bind hpath' fun outcome answer => hsettled _ _ fun other => ?_
    rw [wanted_concat]
    simp [Exchange.Creates, Exchange.Deletes, eq_comm]
  | false =>
    rw [if_neg Bool.false_ne_true, bind_map_left]
    have hpath' : Wanted h path := hwanted.mpr rfl
    refine alone_tryCall_bind hpath' fun outcome answer => hsettled _ _ fun other => ?_
    rw [wanted_concat]
    simp only [Exchange.Creates, Exchange.Deletes, not_false_eq_true, true_and, false_or]
    exact ⟨.inr, fun hother => hother.elim (fun heq => heq ▸ hpath') id⟩

theorem alone_removeFlow_bind {β : Type} {post : Store × List Exchange → Except Failure β → Prop}
    {workflow : Workflow} {next : Unit → Procedure β} (hengine : c.hasEngine = true)
    (hpath : workflow.path? = some path)
    (hnext : ∀ k, (∀ other, Wanted k other ↔ other ≠ path ∧ Wanted h other) →
      alone.Secures post (S, k) (next ()).run) :
    alone.Secures post (S, h) (removeFlow c workflow >>= next).run := by
  rw [removeFlow, hpath, hengine]
  dsimp only
  rw [bind_assoc]
  refine alone_tryCall_bind trivial fun outcome answer => ?_
  have hwanted : ∀ other,
      Wanted (h ++ [⟨.engine (.deleteFlow path), answer⟩]) other ↔
        other ≠ path ∧ Wanted h other := by
    intro other
    rw [wanted_concat]
    simp [Exchange.Creates, Exchange.Deletes, eq_comm]
  split
  · exact hnext _ hwanted
  · exact alone_report_bind fun k hk => hnext k fun other => (hk other).trans (hwanted other)

theorem flowPath_ne_empty (scope name : String) : Signature.flowPath scope name ≠ "" := by
  intro hempty
  have hlist := congrArg String.toList hempty
  rw [Signature.toList_flowPath] at hlist
  simp at hlist

theorem path?_of_flowPath {workflow : Workflow} (hdeployed : workflow.identity.Deployed)
    (hpath : workflow.flowPath = some path) : workflow.path? = some path := by
  have hne : path ≠ "" := by
    obtain rfl := Option.some.inj (hpath.symm.trans hdeployed.flowPath)
    exact flowPath_ne_empty _ _
  rw [Workflow.path?, hpath]
  simpa using hne

theorem isDeleted_revise (request : DeployRequest) (read stored : Workflow) :
    (revise request read stored).isDeleted = false :=
  show (Workflow.activeStatus == Workflow.deletedStatus) = false by decide

theorem consistent_update (hengine : c.hasEngine = true) (hs : Consistent (S, h))
    (hmem : existing ∈ S.workflows) :
    alone.Secures (fun s _ => Consistent s) (S, h) (update c request existing).run := by
  have hdeployed := hs.deployed.deployed _ (mem_identities hmem)
  obtain ⟨path, hpath⟩ : ∃ path, existing.flowPath = some path := ⟨_, hdeployed.flowPath⟩
  rw [update]
  refine Surroundings.secures_run_bind (still_compile _ _) ?_ fun _ _ hstill => hs.still hstill
  rintro ⟨S, k⟩ plan ⟨rfl, hk⟩
  refine alone_update_bind hs.deployed (revise_identity request existing) hmem rfl ?_
  rintro T l changed ⟨now, hupdate⟩ hidentity hl
  have hpath' : changed.path? = some path :=
    path?_of_flowPath (hidentity ▸ hdeployed) ((congrArg Identity.flowPath hidentity).trans hpath)
  have hwanted : ∀ other, Wanted l other ↔ S.Live other :=
    fun other => (hk.trans hl other).trans (hs.wanted other)
  have hpushed : ∀ m, (∀ other, Wanted m other ↔ other = path ∨ Wanted l other) →
      Consistent (T, m) := by
    refine fun m hm => ⟨hs.deployed.update (revise_identity request existing) hupdate,
      fun other => ?_⟩
    rw [hm, hwanted, hs.deployed.live_update (revise_identity request existing) hmem
      rfl hpath hupdate, isDeleted_revise]
    tauto
  refine Surroundings.secures_run_bind (wanted_push hengine hpath' ?_) ?_ ?_
  -- the flow is set up if the workflow was deleted, and then it was not wanted
  · rw [hwanted, hs.deployed.live_iff hmem hpath]
  · rintro ⟨T, m⟩ synced ⟨rfl, hm⟩
    exact alone_report_bind fun n hn => hpushed n fun other => (hn other).trans (hm other)
  · rintro ⟨T, m⟩ failure ⟨rfl, hm⟩
    exact hpushed m hm

theorem isSlug_of_pick {used : List String} {name : String}
    (h : pick request signature used = .ok name) : Text.IsSlug name := by
  rw [pick] at h
  split at h
  · exact Signature.isSlug_of_pickStyleName h
  · exact Signature.isSlug_of_pickName h

theorem still_chooseName : alone.Secures (fun s outcome => Still S h s ∧
      ∀ name, outcome = .ok name → Text.IsSlug name) (S, h) (chooseName request signature).run := by
  rw [chooseName]
  refine alone_ask_bind (fun _ => by simp) fun used T k hanswer hk => ?_
  cases hanswer
  dsimp only
  split
  · next name hpicked =>
    refine ⟨⟨rfl, hk⟩, fun name' hname => ?_⟩
    obtain rfl := Except.ok.inj hname
    exact isSlug_of_pick hpicked
  · refine ⟨⟨rfl, hk⟩, fun name hname => ?_⟩
    cases hname

theorem deployed_of_draft {name freshId : String} {now : Time} {workflow : Workflow}
    (hslug : Text.IsSlug name)
    (hinsert : S.insertWorkflow (draft request signature name) freshId now = .ok (workflow, T)) :
    workflow.identity.Deployed ∧ workflow.flowPath = some (Signature.flowPath request.app name) ∧
      workflow.isDeleted = false := by
  obtain ⟨hcomplete, _, _⟩ := identities_of_insert hinsert
  obtain ⟨workflow', hcomplete', hlive, hidentity⟩ :=
    exists_complete_draft request signature name freshId now
  obtain rfl : workflow = workflow' := Option.some.inj (hcomplete.symm.trans hcomplete')
  exact ⟨hidentity ▸ ⟨hslug, rfl⟩, congrArg Identity.flowPath hidentity, hlive⟩

theorem consistent_insert (hengine : c.hasEngine = true) {attempts : Nat} (hs : Consistent (S, h)) :
    alone.Secures (fun s _ => Consistent s) (S, h) (insert c request signature attempts).run := by
  induction attempts generalizing S h with
  | zero => exact hs
  | succ attempts ih =>
    rw [insert]
    refine Surroundings.secures_run_bind still_chooseName ?_ fun _ _ hfailed => hs.still hfailed.1
    rintro ⟨S, k⟩ name ⟨⟨rfl, hk⟩, hslug⟩
    refine Surroundings.secures_run_bind (still_compile _ _) ?_ fun _ _ hstill =>
      (hs.still ⟨rfl, hk⟩).still hstill
    rintro ⟨S, l⟩ plan ⟨rfl, hl⟩
    have hl' : Consistent (S, l) := hs.still ⟨rfl, hk.trans hl⟩
    refine alone_ask_bind (fun _ => by simp) fun answer T m hanswer hm => ?_
    cases hanswer with
    | @insertWorkflow _ _ freshId now workflow _ hinsert =>
      obtain ⟨hdeployed, hpath, hlive⟩ := deployed_of_draft (hslug name rfl) hinsert
      have hwanted : ∀ other, Wanted m other ↔ S.Live other :=
        fun other => (hm other).trans (hl'.wanted other)
      have hpushed : ∀ n,
          (∀ other, Wanted n other ↔ other = Signature.flowPath request.app name ∨ Wanted m other) →
          Consistent (T, n) := by
        refine fun n hn => ⟨hl'.deployed.insert hdeployed hinsert, fun other => ?_⟩
        rw [hn, hwanted, live_insert hpath hlive hinsert]
      refine Surroundings.secures_run_bind
        (wanted_push hengine (path?_of_flowPath hdeployed hpath) ?_) ?_ ?_
      · simp [hwanted, hl'.deployed.not_live_insert hdeployed hpath hinsert]
      · rintro ⟨T, n⟩ synced ⟨rfl, hn⟩
        exact alone_report_bind fun j hj => hpushed j fun other => (hj other).trans (hn other)
      · rintro ⟨T, n⟩ failure ⟨rfl, hn⟩
        exact hpushed n hn
    | @refuseInsert _ _ _ _ failure hinsert =>
      have hm' : Consistent (S, m) := hl'.still ⟨rfl, hm⟩
      split
      · next heq => cases heq
      · refine alone_ask_bind (fun _ => by simp) fun winner T n hanswer hn => ?_
        cases hanswer
        have hn' : Consistent (S, n) := hm'.still ⟨rfl, hn⟩
        split
        · next winner hwinner =>
          refine alone_report_bind fun j hj => ?_
          exact consistent_update hengine (hn'.still ⟨rfl, hj⟩) (bySignature?_eq_some hwinner).1
        · exact alone_report_bind fun j hj => ih (hn'.still ⟨rfl, hj⟩)
      · exact hm'

theorem consistent_deploy (hengine : c.hasEngine = true) (hs : Consistent (S, h)) :
    alone.Secures (fun s _ => Consistent s) (S, h) (deploy c request).run := by
  rw [deploy]
  dsimp only
  split
  · exact hs
  · refine alone_ask_bind (fun _ => by simp) fun existing T k hanswer hk => ?_
    cases hanswer
    have hk' : Consistent (S, k) := hs.still ⟨rfl, hk⟩
    split
    · next existing hexisting =>
        exact consistent_update hengine hk' (bySignature?_eq_some hexisting).1
    · exact consistent_insert hengine hk'

theorem consistent_markDeleted {id : String} {workflow : Workflow} (hS : S.Deployed)
    (hmem : workflow ∈ S.workflows) (hid : workflow.id = id) (hpath : workflow.flowPath = some path)
    (hwanted : ∀ other, Wanted h other ↔ other ≠ path ∧ S.Live other) :
    alone.Secures (fun s _ => Consistent s) (S, h) (markDeleted id).run := by
  have hchange : ∀ w : Workflow, ({ w with status := Workflow.deletedStatus } : Workflow).identity =
    w.identity := fun _ => rfl
  refine alone_update_bind hS hchange hmem hid ?_
  rintro T k deleted ⟨now, hupdate⟩ _ hk
  refine alone_report_bind fun l hl => ⟨hS.update hchange hupdate, fun other => ?_⟩
  rw [hk.trans hl other, hwanted, hS.live_update hchange hmem hid hpath hupdate]
  simp [Workflow.isDeleted]

theorem consistent_delete (hengine : c.hasEngine = true) (id : String) (hs : Consistent (S, h)) :
    alone.Secures (fun s _ => Consistent s) (S, h) (delete c id).run := by
  rw [delete]
  refine alone_ask_bind (fun _ => by simp) fun found T k hanswer hk => ?_
  cases hanswer
  have hk' : Consistent (S, k) := hs.still ⟨rfl, hk⟩
  split
  · exact hk'
  · next workflow hfound =>
    obtain ⟨hmem, hid⟩ := workflow?_eq_some (workflow?_of_liveWorkflow? hfound)
    have hdeployed := hk'.deployed.deployed _ (mem_identities hmem)
    obtain ⟨path, hpath⟩ : ∃ path, workflow.flowPath = some path := ⟨_, hdeployed.flowPath⟩
    refine alone_removeFlow_bind hengine (path?_of_flowPath hdeployed hpath) fun l hl => ?_
    refine consistent_markDeleted hk'.deployed hmem hid hpath fun other => ?_
    rw [hl, hk'.wanted]

end Deployer

end Flowplan
