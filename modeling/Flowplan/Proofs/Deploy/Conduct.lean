import Flowplan.Deployment
import Flowplan.Proofs.Interference
import Flowplan.Proofs.Signature.Free

namespace Flowplan

namespace Store

variable {α β : Type} {S R T : Store} {h k : List Exchange} {app : String}

def ofApp (store : Store) (app : String) : List Identity := store.identities.filter (·.appId == app)

theorem usedNames_eq (store : Store) (app : String) :
    store.usedNames app = (store.ofApp app).map Identity.signatureName := by
  simp [usedNames, ofApp, identities, List.filter_map, Function.comp_def, Workflow.identity]

theorem Grows.ofApp (h : S.Grows T) (app : String) : S.ofApp app <+: T.ofApp app :=
  h.identities.filter _

theorem Grows.usedNames (h : S.Grows T) (app : String) : S.usedNames app <+: T.usedNames app := by
  rw [usedNames_eq, usedNames_eq]
  exact (h.ofApp app).map _

theorem Grows.length_lt (h : S.Grows T) {identity : Identity} (hmem : identity ∈ T.ofApp app)
    (hfree : identity.signatureName ∉ S.usedNames app) :
    (S.ofApp app).length < (T.ofApp app).length := by
  refine Nat.lt_of_le_of_ne (h.ofApp app).length_le fun hlength => hfree ?_
  rw [usedNames_eq, (h.ofApp app).eq_of_length hlength]
  exact List.mem_map_of_mem hmem

theorem bySignature?_eq_some {signature : String} {workflow : Workflow}
    (h : S.bySignature? app signature true = some workflow) :
    workflow ∈ S.workflows ∧ workflow.appId = app ∧ workflow.signature = signature :=
  ⟨List.mem_of_find?_eq_some h, by simpa using List.find?_some h⟩

theorem bySignature?_eq_none {signature : String} (h : S.bySignature? app signature true = none)
    {identity : Identity} (hmem : identity ∈ S.identities) (happ : identity.appId = app) :
    identity.signature ≠ signature := by
  obtain ⟨workflow, hworkflow, rfl⟩ := List.mem_map.mp hmem
  have hother := List.find?_eq_none.mp h workflow hworkflow
  intro hsignature
  simp_all [Workflow.identity]

theorem exists_ok_of_update {id : String} {change : Workflow → Workflow}
    {answer : Except Failure Workflow} {identity : Identity} (hsound : S.Sound)
    (hchange : ∀ w, (change w).identity = w.identity) (hmem : identity ∈ S.identities)
    (hid : identity.id = id) (h : S.Answers (.updateWorkflow id change) answer T) :
    ∃ workflow, answer = .ok workflow ∧ workflow.identity = identity := by
  obtain ⟨found, hfound, hidentity⟩ := exists_workflow? hsound hmem
  rw [hid] at hfound
  cases h with
  | updateWorkflow hupdate =>
    obtain ⟨_, found', hfound', rfl⟩ := identities_of_update hsound hchange hupdate
    cases hfound.symm.trans hfound'
    exact ⟨_, rfl, (hchange found).trans hidentity⟩
  | refuseUpdate hupdate =>
    rw [updateWorkflow_eq_ok hsound hchange hfound] at hupdate
    cases hupdate

structure Quiet (S : Store) (h : List Exchange) (s : Store × List Exchange)
    (outcome : Except Failure α) : Prop where
  grows : S.Grows s.1
  inserted : inserted s.2 = Flowplan.inserted h
  named : ∀ failure, outcome = .error failure → failure.isNameless = false

theorem Quiet.ok (hgrows : S.Grows T) (hinserted : Flowplan.inserted k = Flowplan.inserted h)
    (value : α) : Quiet S h (T, k) (.ok value : Except Failure α) :=
  ⟨hgrows, hinserted, fun _ h => nomatch h⟩

theorem Quiet.error (hgrows : S.Grows T) (hinserted : Flowplan.inserted k = Flowplan.inserted h)
    {failure : Failure} (hnamed : failure.isNameless = false) :
    Quiet S h (T, k) (.error failure : Except Failure α) :=
  ⟨hgrows, hinserted, fun _ h => Except.error.inj h ▸ hnamed⟩

theorem Quiet.failed {s : Store × List Exchange} {failure : Failure}
    (hs : Quiet S h s (.error failure : Except Failure α)) :
    Quiet S h s (.error failure : Except Failure β) :=
  ⟨hs.grows, hs.inserted, fun _ h => hs.named _ (congrArg Except.error (Except.error.inj h))⟩

theorem Quiet.after {s : Store × List Exchange} {outcome : Except Failure α}
    (hs : Quiet T k s outcome) (hgrows : S.Grows T)
    (hinserted : Flowplan.inserted k = Flowplan.inserted h) : Quiet S h s outcome :=
  ⟨hgrows.trans hs.grows, hs.inserted.trans hinserted, hs.named⟩

theorem secures_ask_bind {post : Store × List Exchange → Except Failure β → Prop} {action : Action}
    {next : action.Answer → Procedure β} (hkeeps : action.KeepsIdentity)
    (hinserted : ∀ answer, inserted [⟨action, answer⟩] = [])
    (hnext : ∀ R T k answer, S.Grows R → R.Grows T → R.Answers action answer T →
      R.Fair action answer →
      inserted k = inserted h → amid.Secures post (T, k) (next answer).run) :
    amid.Secures post (S, h) (Procedure.ask action >>= next).run := by
  rw [Procedure.ask, Surroundings.secures_lift_bind]
  rintro ⟨R, k⟩ ⟨hgrows, rfl⟩
  refine ⟨hkeeps, ?_⟩
  rintro answer ⟨T, k⟩ ⟨hanswer, hfair, rfl⟩
  exact hnext R T _ answer hgrows (grows_of_answers hkeeps hgrows.sound hanswer) hanswer hfair
    (by simp [hinserted])

theorem secures_report_bind {post : Store × List Exchange → Except Failure β → Prop} {level : Level}
    {component message : String} {data : Entries Json} {runId : Option String}
    {next : Unit → Procedure β}
    (hnext : ∀ T k, S.Grows T → inserted k = inserted h → amid.Secures post (T, k) (next ()).run) :
    amid.Secures post (S, h) (Procedure.report level component message data runId >>= next).run :=
  secures_ask_bind trivial (fun _ => rfl) fun _ T k _ hgrows hgrows' _ _ hk =>
    hnext T k (hgrows.trans hgrows') hk

theorem secures_quiet_bind {post : Store × List Exchange → Except Failure β → Prop}
    {procedure : Procedure α} {next : α → Procedure β}
    (hquiet : amid.Secures (Quiet S h) (S, h) procedure.run)
    (hnext : ∀ T k value, S.Grows T → inserted k = inserted h →
      amid.Secures post (T, k) (next value).run)
      (herror : ∀ s failure, Quiet S h s (.error failure : Except Failure α) →
        post s (.error failure)) :
    amid.Secures post (S, h) (procedure >>= next).run :=
  Surroundings.secures_run_bind hquiet
    (fun s value hs => hnext s.1 s.2 value hs.grows hs.inserted) herror

theorem secures_update_bind {post : Store × List Exchange → Except Failure β → Prop} {id : String}
    {change : Workflow → Workflow} {next : Workflow → Procedure β} {identity : Identity}
    (hchange : ∀ w, (change w).identity = w.identity) (hmem : identity ∈ S.identities)
    (hid : identity.id = id) (hnext : ∀ T k workflow, workflow.identity = identity → S.Grows T →
      inserted k = inserted h →
      amid.Secures post (T, k) (next workflow).run) :
    amid.Secures post (S, h) (Procedure.attempt (send (.updateWorkflow id change)) >>=
      next).run := by
  have hkeeps : Action.KeepsIdentity (.updateWorkflow id change) := hchange
  rintro ⟨R, k⟩ ⟨hgrows, rfl⟩
  refine ⟨hkeeps, ?_⟩
  rintro answer ⟨T, k⟩ ⟨hanswer, _, rfl⟩
  obtain ⟨workflow, rfl, hidentity⟩ :=
    exists_ok_of_update hgrows.sound hchange (hgrows.identities.subset hmem) hid hanswer
  have hinserted : inserted (k ++ [⟨.updateWorkflow id change, .ok workflow⟩]) = inserted k := by
    simp [inserted, Exchange.inserted?]
  exact hnext T _ workflow hidentity
    (hgrows.trans (grows_of_answers hkeeps hgrows.sound hanswer)) hinserted

theorem quiet_bind {procedure : Procedure α} {next : α → Procedure β}
    (hquiet : amid.Secures (Quiet S h) (S, h) procedure.run)
    (hnext : ∀ T k value, S.Grows T → inserted k = inserted h →
      amid.Secures (Quiet S h) (T, k) (next value).run) :
    amid.Secures (Quiet S h) (S, h) (procedure >>= next).run :=
  secures_quiet_bind hquiet hnext fun _ _ hs => hs.failed

theorem quiet_map {procedure : Procedure α} (f : α → β)
    (h' : amid.Secures (Quiet S h) (S, h) procedure.run) :
    amid.Secures (Quiet S h) (S, h) (f <$> procedure).run := by
  rw [ExceptT.run_map, Surroundings.secures_map]
  refine h'.imp fun s outcome hs => ⟨hs.grows, hs.inserted, fun failure hfailure => ?_⟩
  cases outcome with
  | ok value => cases hfailure
  | error other => exact hs.named failure (congrArg Except.error (Except.error.inj hfailure))

theorem quiet_report {level : Level} {component message : String} {data : Entries Json}
    {runId : Option String} :
    amid.Secures (Quiet S h) (S, h) (Procedure.report level component message data runId).run := by
  rw [← bind_pure (Procedure.report level component message data runId)]
  exact secures_report_bind fun T k hT hk => .ok hT hk ()

theorem quiet_tryCall (call : EngineCall) :
    amid.Secures (Quiet S h) (S, h) (Procedure.tryCall call).run := by
  have hkeeps : Action.KeepsIdentity (.engine call) := trivial
  rintro ⟨R, k⟩ ⟨hgrows, rfl⟩
  refine ⟨hkeeps, ?_⟩
  rintro answer ⟨T, k⟩ ⟨hanswer, hfair, rfl⟩
  have hgrows' := hgrows.trans (grows_of_answers hkeeps hgrows.sound hanswer)
  have hinserted : inserted (k ++ [⟨.engine call, answer⟩]) = inserted k := by
    simp [inserted, Exchange.inserted?]
  cases answer with
  | ok reply => exact .ok hgrows' hinserted _
  | error failure =>
    cases failure with
    | engine fault => exact .ok hgrows' hinserted _
    | _ => exact .error hgrows' hinserted hfair

end Store

namespace Deployer

open Store

variable {S T : Store} {h k : List Exchange} {c : Context} {request : DeployRequest}
  {existing : Workflow}

theorem quiet_reports (hsound : S.Sound) (entries : List LogEntry) :
    amid.Secures (Quiet S h) (S, h)
      (entries.forM fun entry => (Procedure.ask (.report entry) : Procedure Unit)).run := by
  induction entries generalizing S h with
  | nil => exact .ok (.refl hsound) rfl ()
  | cons entry entries ih =>
    refine secures_ask_bind trivial (fun _ => rfl) fun R T k _ hgrows hgrows' _ _ hk => ?_
    exact (ih hgrows'.sound).imp fun s outcome hs => hs.after (hgrows.trans hgrows') hk

theorem quiet_compile (hsound : S.Sound) (graph : Graph) (name : String) :
    amid.Secures (Quiet S h) (S, h) (compile c graph name).run := by
  rw [compile]
  split
  · next plan _ => exact quiet_bind (quiet_reports hsound _) fun T k _ hT hk => .ok hT hk plan
  · exact .error (.refl hsound) rfl rfl

theorem quiet_settlePush (hsound : S.Sound) (path : String) (fault? : Option EngineFault) :
    amid.Secures (Quiet S h) (S, h) (settlePush path fault?).run := by
  cases fault? with
  | none => exact .ok (.refl hsound) rfl true
  | some fault => exact secures_report_bind fun T k hT hk => .ok hT hk false

theorem quiet_push (hsound : S.Sound) (workflow : Workflow) (plan : Plan) (create : Bool) :
    amid.Secures (Quiet S h) (S, h) (push c workflow plan create).run := by
  rw [push]
  split
  · next path _ _ =>
    have hsettled : ∀ T k fault?, S.Grows T → inserted k = inserted h →
        amid.Secures (Quiet S h) (T, k) (settlePush path fault?).run := fun T k fault? hT hk =>
      (quiet_settlePush hT.sound path fault?).imp fun _ _ hs => hs.after hT hk
    dsimp only
    split
    · exact quiet_bind (quiet_map _ (quiet_tryCall _)) hsettled
    · exact quiet_bind (quiet_map _ (quiet_tryCall _)) hsettled
  · exact .ok (.refl hsound) rfl false

theorem quiet_removeFlow (hsound : S.Sound) (workflow : Workflow) :
    amid.Secures (Quiet S h) (S, h) (removeFlow c workflow).run := by
  rw [removeFlow]
  split
  · refine quiet_bind (quiet_tryCall _) fun T k outcome hT hk => ?_
    split
    · exact .ok hT hk ()
    · exact quiet_report.imp fun _ _ hs => hs.after hT hk
  · exact .ok (.refl hsound) rfl ()

/-- What a deployment ends with: a stored workflow of its own app and signature,
which it stored itself if it says so; and it only wants for a name if the app got a
workflow for each attempt, none of them its own. -/
def Lands (app signature : String) (attempts : Nat) (S : Store) (h : List Exchange) :
    Store × List Exchange → Except Failure Deployed → Prop
  | (T, k), .ok deployed =>
    deployed.workflow.identity ∈ T.identities ∧ deployed.workflow.appId = app ∧
      deployed.workflow.signature = signature ∧
      (deployed.action = .created → deployed.workflow ∈ inserted k)
  | (T, k), .error failure => failure.isNameless = true →
      inserted k = inserted h ∧ (S.ofApp app).length + attempts ≤ (T.ofApp app).length

variable {app signature : String} {attempts : Nat} {s : Store × List Exchange}

theorem Lands.of_failed {α : Type} {failure : Failure}
    (hs : Quiet T k s (.error failure : Except Failure α)) :
    Lands app signature attempts S h s (.error failure) :=
  fun hnameless => absurd hnameless (by simp [hs.named failure rfl])

theorem Lands.earlier {outcome : Except Failure Deployed} {left : Nat}
    (hs : Lands app signature left T k s outcome) (hinserted : inserted k = inserted h)
    (hlength : (S.ofApp app).length + attempts ≤ (T.ofApp app).length + left) :
    Lands app signature attempts S h s outcome := by
  cases outcome with
  | ok deployed => exact hs
  | error failure =>
    intro hnameless
    obtain ⟨hk, hle⟩ := hs hnameless
    exact ⟨hk.trans hinserted, Nat.le_trans hlength hle⟩

theorem Lands.later {outcome : Except Failure Deployed} {s t : Store × List Exchange}
    (hothers : amid.others s t) (hs : Lands app signature attempts S h s outcome) :
    Lands app signature attempts S h t outcome := by
  obtain ⟨hgrows, hhistory⟩ := hothers
  cases outcome with
  | ok deployed =>
    obtain ⟨hmem, happ, hsignature, hcreated⟩ := hs
    exact ⟨hgrows.identities.subset hmem, happ, hsignature, hhistory ▸ hcreated⟩
  | error failure =>
    intro hnameless
    obtain ⟨hk, hle⟩ := hs hnameless
    exact ⟨hhistory ▸ hk, Nat.le_trans hle (hgrows.ofApp app).length_le⟩

theorem revise_identity (request : DeployRequest) (read stored : Workflow) :
    (revise request read stored).identity = stored.identity := rfl

theorem secures_update (hsound : S.Sound) (hstored : existing.identity ∈ S.identities)
    (happ : existing.appId = app) (hsignature : existing.signature = signature) :
    amid.Secures (Lands app signature attempts T k) (S, h) (update c request existing).run := by
  rw [update]
  refine secures_quiet_bind (quiet_compile hsound _ _) (fun Q j plan hQ hj => ?_) fun _ _ hs =>
    .of_failed hs
  refine secures_update_bind (revise_identity request existing) (hQ.identities.subset hstored) rfl
    fun R l workflow hidentity hR hl => ?_
  refine secures_quiet_bind (quiet_push hR.sound _ _ _) (fun U m synced hU hm => ?_) fun _ _ hs =>
    .of_failed hs
  refine secures_report_bind fun V n hV hn => ?_
  have hall := hQ.trans (hR.trans (hU.trans hV))
  refine ⟨?_, ?_, ?_, fun hcreated => nomatch hcreated⟩
  · exact hidentity ▸ hall.identities.subset hstored
  · exact (congrArg Identity.appId hidentity).trans happ
  · exact (congrArg Identity.signature hidentity).trans hsignature

def pick (request : DeployRequest) (signature : String) (used : List String) :
    Except Text.NumeralError String :=
  match request.styleName.filter (· != "") with
  | some style => Signature.pickStyleName style used
  | none => Signature.pickName signature used

theorem pick_notMem {used : List String} {name : String}
    (h : pick request signature used = .ok name) : name ∉ used := by
  rw [pick] at h
  split at h
  · exact Signature.pickStyleName_notMem h
  · exact Signature.pickName_notMem h

theorem quiet_chooseName : amid.Secures (fun s outcome => Quiet S h s outcome ∧
      ∀ name, outcome = .ok name →
        name ∉ S.usedNames request.app) (S, h) (chooseName request signature).run := by
  rw [chooseName]
  refine secures_ask_bind trivial (fun _ => rfl) fun R T k used hR hT hanswer _ hk => ?_
  cases hanswer
  dsimp only
  have hfree : ∀ {name}, name ∉ R.usedNames request.app → name ∉ S.usedNames request.app :=
    fun hname hused => hname ((hR.usedNames request.app).subset hused)
  split
  · next name hpicked =>
    refine ⟨.ok (hR.trans hT) hk name, fun name' hname => hfree ?_⟩
    obtain rfl := Except.ok.inj hname
    exact pick_notMem hpicked
  · exact ⟨.error (hR.trans hT) hk rfl, fun _ hname => nomatch hname⟩

theorem exists_complete_draft (request : DeployRequest) (signature name freshId : String)
    (now : Time) :
    ∃ workflow, (draft request signature name).complete freshId now = some workflow ∧
      workflow.isDeleted = false ∧
      workflow.identity =
        ⟨freshId, request.app, name, signature, name, some (Signature.flowPath request.app name)⟩ :=
  have hstatus : (Workflow.activeStatus == Workflow.deletedStatus) = false := by decide
  ⟨_, rfl, hstatus, rfl⟩

theorem secures_insert_bind {β : Type} {post : Store × List Exchange → Except Failure β → Prop}
    {name : String} {next : Except Failure Workflow → Procedure β}
    (hok : ∀ T k workflow, workflow.appId = request.app → workflow.signature = signature →
      workflow.identity ∈ T.identities → S.Grows T → inserted k = inserted h ++ [workflow] →
      amid.Secures post (T, k) (next (.ok workflow)).run)
    (hrefused : ∀ T k, (∃ other ∈ T.ofApp request.app, other.signature = signature ∨
      other.signatureName = name) →
      S.Grows T → inserted k = inserted h → amid.Secures post (T, k)
      (next (.error .constraint)).run) :
    amid.Secures post (S, h) (Procedure.ask (.insertWorkflow (draft request signature name)) >>=
      next).run := by
  have hkeeps : Action.KeepsIdentity (.insertWorkflow (draft request signature name)) := trivial
  rintro ⟨R, k⟩ ⟨hgrows, rfl⟩
  refine ⟨hkeeps, ?_⟩
  rintro answer ⟨T, k⟩ ⟨hanswer, hfair, rfl⟩
  have hgrows' := grows_of_answers hkeeps hgrows.sound hanswer
  cases hanswer with
  | @insertWorkflow _ _ freshId now workflow _ hinsert =>
    obtain ⟨hcomplete, hidentities, _⟩ := identities_of_insert hinsert
    obtain ⟨workflow', hcomplete', _, hidentity⟩ :=
      exists_complete_draft request signature name freshId now
    obtain rfl : workflow = workflow' := Option.some.inj (hcomplete.symm.trans hcomplete')
    refine hok T _ workflow (congrArg Identity.appId hidentity)
      (congrArg Identity.signature hidentity) ?_
      (hgrows.trans hgrows') (by simp [inserted, Exchange.inserted?])
    simp [hidentities]
  | @refuseInsert _ _ _ _ failure hinsert =>
    -- a fair refusal meets a new id too, so what clashes is the signature or the name
    obtain ⟨freshId, now, hfresh, hrefused'⟩ := hfair
    obtain ⟨workflow, hcomplete, _, hidentity⟩ :=
      exists_complete_draft request signature name freshId now
    obtain ⟨rfl, other, hother, hapart⟩ := exists_of_refuseInsert hcomplete hrefused'
    refine hrefused _ _ ⟨other, ?_⟩ hgrows (by simp [inserted, Exchange.inserted?])
    have hid : other.id ≠ freshId := by
      rintro rfl
      obtain ⟨found, hfound, _⟩ := exists_workflow? hgrows.sound hother
      simp [hfound] at hfresh
    by_contra hclash
    refine hapart (hidentity ▸ ⟨hid, fun happ hsame => hclash ?_, fun happ hsame => hclash ?_⟩)
    · exact ⟨List.mem_filter.mpr ⟨hother, by simpa using happ⟩, .inl hsame⟩
    · exact ⟨List.mem_filter.mpr ⟨hother, by simpa using happ⟩, .inr hsame⟩

theorem secures_insert (hsound : S.Sound) :
    amid.Secures (Lands request.app signature attempts S h)
      (S, h) (insert c request signature attempts).run := by
  -- on the attempts: each one that fails for its name leaves the app
  -- with a workflow more than it found
  induction attempts generalizing S h with
  | zero => exact fun _ => ⟨rfl, Nat.le_refl _⟩
  | succ attempts ih =>
    rw [insert]
    refine Surroundings.secures_run_bind quiet_chooseName (fun s name ⟨hs, hfree⟩ => ?_)
      fun _ _ ⟨hs, _⟩ =>
      .of_failed hs
    refine secures_quiet_bind (quiet_compile hs.grows.sound _ _) (fun T k plan hT hk => ?_)
      fun _ _ hs => .of_failed hs
    refine secures_insert_bind (fun R l workflow happ hsignature hmem hR hl => ?_)
      fun R l hclash hR hl => ?_
    · refine secures_quiet_bind (quiet_push hR.sound _ _ _) (fun U m synced hU hm => ?_)
        fun _ _ hs => .of_failed hs
      refine secures_report_bind fun V n hV hn => ?_
      refine ⟨(hU.trans hV).identities.subset hmem, happ, hsignature, fun _ => ?_⟩
      simp [hn, hm, hl]
    · refine secures_ask_bind trivial (fun _ => rfl) fun U V m winner hU hV hanswer _ hm => ?_
      cases hanswer
      obtain ⟨other, hother, hclash⟩ := hclash
      have hother' : other ∈ U.ofApp request.app := (hU.ofApp request.app).subset hother
      have hall : S.Grows U := hs.grows.trans (hT.trans (hR.trans hU))
      split
      · next winner hwinner =>
        obtain ⟨hmem, happ, hsignature⟩ := bySignature?_eq_some hwinner
        refine secures_report_bind fun V n hV hn => ?_
        exact secures_update hV.sound (hV.identities.subset (mem_identities hmem)) happ hsignature
      · next hnone =>
        -- the app has no workflow of the signature, so what clashes
        -- has the name, which was free at first
        have hname : other.signatureName = name := by
          refine hclash.resolve_left (bySignature?_eq_none hnone (List.mem_filter.mp hother').1 ?_)
          simpa using (List.mem_filter.mp hother').2
        have hlength := hall.length_lt hother' (hname ▸ hfree name rfl)
        refine secures_report_bind fun V n hV hn => ?_
        refine (ih hV.sound).imp fun s outcome houtcome => houtcome.earlier ?_ ?_
        · rw [hn, hm, hl, hk, hs.inserted]
        · have hle := (hV.ofApp request.app).length_le
          omega

theorem secures_deploy :
    amid.Secures (Lands request.app request.graph.signature insertAttempts S h)
      (S, h) (deploy c request).run := by
  rw [deploy]
  dsimp only
  split
  · exact fun hnameless => nomatch hnameless
  · refine secures_ask_bind trivial (fun _ => rfl) fun R T k existing hR hT hanswer _ hk => ?_
    cases hanswer
    split
    · next existing hexisting =>
      obtain ⟨hmem, happ, hsignature⟩ := bySignature?_eq_some hexisting
      exact secures_update hT.sound (mem_identities hmem) happ hsignature
    · refine (secures_insert hT.sound).imp fun s outcome houtcome => houtcome.earlier hk ?_
      exact Nat.add_le_add_right (hR.ofApp request.app).length_le insertAttempts

theorem quiet_markDeleted {id : String} {workflow : Workflow}
    (hmem : workflow.identity ∈ S.identities) (hid : workflow.id = id) :
    amid.Secures (Quiet S h) (S, h) (markDeleted id).run := by
  refine secures_update_bind (fun _ => rfl) hmem hid fun T k deleted _ hT hk => ?_
  exact secures_report_bind fun U l hU hl => .ok (hT.trans hU) (hl.trans hk) deleted

theorem quiet_delete (id : String) : amid.Secures (Quiet S h) (S, h) (delete c id).run := by
  rw [delete]
  refine secures_ask_bind trivial (fun _ => rfl) fun R T k found hR hT hanswer _ hk => ?_
  cases hanswer
  split
  · exact .error hR hk rfl
  · next workflow hfound =>
    obtain ⟨hmem, hid⟩ := workflow?_eq_some (workflow?_of_liveWorkflow? hfound)
    refine secures_quiet_bind (quiet_removeFlow hT.sound workflow) (fun U l _ hU hl => ?_)
      fun _ _ hs =>
      (hs.after hR hk).failed
    refine (quiet_markDeleted (hU.identities.subset (mem_identities hmem)) hid).imp fun _ _ hs => ?_
    exact hs.after (hR.trans hU) (hl.trans hk)

end Deployer

end Flowplan
