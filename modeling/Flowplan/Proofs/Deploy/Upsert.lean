import Flowplan.Proofs.Deploy.Paths

namespace Flowplan

namespace Store

variable {α β : Type} {S T : Store} {workflow old : Workflow}

def solo : Surroundings Action.Answer Store where
  answers := Store.Answers
  others := Eq
  allowed _ _ := True

theorem solo_ask_bind {post : Store → Except Failure β → Prop} {action : Action}
    {next : action.Answer → Procedure β}
    (hnext : ∀ answer T, S.Answers action answer T → solo.Secures post T (next answer).run) :
    solo.Secures post S (Procedure.ask action >>= next).run := by
  rintro _ rfl
  exact ⟨trivial, fun answer T hanswer => hnext answer T hanswer⟩

theorem solo_of_reads {post : List Exchange → α → Prop} {history : List Exchange}
    {routine : Routine α} (h : reading.Ensures post history routine) :
    solo.Secures (fun T _ => T = S) S routine := by
  induction routine generalizing history with
  | done value => exact rfl
  | ask action next ih =>
    rintro _ rfl
    refine ⟨trivial, fun answer T hanswer => ?_⟩
    obtain rfl := hanswer.eq_of_reads h.1
    exact ih answer (h.2 answer trivial)

theorem solo_reads_bind {post : Store → Except Failure β → Prop} {procedure : Procedure α}
    {next : α → Procedure β} (hreads : Deployer.Reads [] procedure)
    (hnext : ∀ value, solo.Secures post S (next value).run)
    (herror : ∀ failure, post S (.error failure)) :
    solo.Secures post S (procedure >>= next).run := by
  refine Surroundings.secures_run_bind (solo_of_reads hreads) ?_ ?_
  · rintro _ value rfl
    exact hnext value
  · rintro _ failure rfl
    exact herror failure

def replace (store : Store) (workflow : Workflow) : Store :=
  { store with
    workflows := store.workflows.map fun w => if w.id == workflow.id then workflow else w }

theorem Sound.eq_of_signature (h : S.Sound) (hmem : workflow ∈ S.workflows)
    (hold : old ∈ S.workflows) (happ : old.appId = workflow.appId)
    (hsignature : old.signature = workflow.signature) : old = workflow := by
  have hidentity : old.identity = workflow.identity :=
    h.eq_of_not_apart (mem_identities hold) (mem_identities hmem) fun hapart =>
      hapart.signature happ hsignature
  exact h.eq_of_id hold hmem (congrArg Identity.id hidentity)

theorem Sound.bySignature?_of_mem (h : S.Sound) (hmem : workflow ∈ S.workflows) :
    S.bySignature? workflow.appId workflow.signature true = some workflow := by
  cases hfound : S.bySignature? workflow.appId workflow.signature true with
  | none => exact absurd rfl (bySignature?_eq_none hfound (mem_identities hmem) rfl)
  | some found =>
    obtain ⟨hfoundMem, happ, hsignature⟩ := bySignature?_eq_some hfound
    rw [h.eq_of_signature hmem hfoundMem happ hsignature]

theorem Sound.nodup (h : S.Sound) : S.workflows.Nodup := by
  have hids := (List.pairwise_map.mp h).imp fun hapart => hapart.id
  exact hids.imp fun hne heq => hne (congrArg Workflow.id heq)

theorem Sound.filter_signature (h : S.Sound) (hmem : workflow ∈ S.workflows) :
    S.workflows.filter (fun w => w.appId == workflow.appId && w.signature == workflow.signature) =
      [workflow] := by
  refine List.perm_singleton.mp ?_
  refine (List.perm_ext_iff_of_nodup (h.nodup.filter _) (List.nodup_singleton _)).mpr fun w => ?_
  simp only [List.mem_filter, Bool.and_eq_true, beq_iff_eq, List.mem_singleton]
  constructor
  · rintro ⟨hw, happ, hsignature⟩
    exact h.eq_of_signature hmem hw happ hsignature
  · rintro rfl
    exact ⟨hmem, rfl, rfl⟩

theorem filter_replace (S : Store) (workflow : Workflow) :
    (S.replace workflow).workflows.filter (·.id != workflow.id) =
      S.workflows.filter (·.id != workflow.id) := by
  rw [replace]
  generalize S.workflows = workflows
  induction workflows with
  | nil => rfl
  | cons w rest ih =>
    by_cases hid : w.id = workflow.id <;> simp_all

theorem Sound.replace_self (h : S.Sound) (hmem : workflow ∈ S.workflows) :
    S.replace workflow = S := by
  have hworkflows : (S.workflows.map fun w => if w.id == workflow.id then workflow else w) =
      S.workflows := by
    refine (List.map_congr_left fun w hw => ?_).trans (List.map_id _)
    split
    · next hid => exact (h.eq_of_id hw hmem (eq_of_beq hid)).symm
    · rfl
  rw [replace, hworkflows]

theorem mem_replace {existing : Workflow} (hmem : existing ∈ S.workflows)
    (hid : existing.id = workflow.id) : workflow ∈ (S.replace workflow).workflows :=
  List.mem_map.mpr ⟨existing, hmem, by rw [hid, BEq.rfl, if_pos rfl]⟩

theorem Sound.replace (h : S.Sound) {existing : Workflow} (hmem : existing ∈ S.workflows)
    (hidentity : workflow.identity = existing.identity) : (S.replace workflow).Sound := by
  have hidentities : (S.replace workflow).identities = S.identities := by
    rw [identities, Store.replace, List.map_map]
    refine List.map_congr_left fun w hw => ?_
    rw [Function.comp_apply]
    split
    · next hid =>
      rw [hidentity, h.eq_of_id hw hmem ((eq_of_beq hid).trans (congrArg Identity.id hidentity))]
    · rfl
  rwa [Sound, hidentities]

end Store

namespace Deployer

open Store

variable {S T : Store} {c : Context} {request : DeployRequest} {existing : Workflow}
  {signature : String}

def revised (request : DeployRequest) (workflow : Workflow) (now : Time) : Workflow :=
  { revise request workflow workflow with updatedAt := now }

def Tells (workflow : Workflow) (action : DeployAction) : Except Failure Deployed → Prop
  | .ok deployed => deployed.workflow = workflow ∧ deployed.action = action
  | .error _ => True

/-- What a deployment that is alone does to a store: nothing, and then it fails; or it
revises the workflow of its signature, or it stores a new one under a free name where
there is none, and then it may still fail. -/
inductive Becomes (request : DeployRequest) (S : Store) : Store → Except Failure Deployed → Prop
  | refused (failure) : Becomes request S S (.error failure)
  | revised {existing outcome} (now) : S.bySignature? request.app request.graph.signature true =
      some existing →
    Tells (revised request existing now) .updated outcome →
    Becomes request S (S.replace (revised request existing now)) outcome
  | stored {workflow name freshId now T outcome} :
    S.bySignature? request.app request.graph.signature true = none →
    name ∉ S.usedNames request.app →
    S.insertWorkflow (draft request request.graph.signature name) freshId now = .ok (workflow, T) →
    Tells workflow .created outcome → Becomes request S T outcome

theorem solo_push {post : Store → Except Failure Deployed → Prop} {workflow : Workflow}
    {plan : Plan} {create : Bool} {level : Level} {message : String} {data : Bool → Entries Json}
    {action : DeployAction} (hpost : ∀ outcome, Tells workflow action outcome → post S outcome) :
    solo.Secures post S (do
      let synced ← push c workflow plan create
      Procedure.report level component message (data synced)
      return ⟨workflow, action, synced⟩ : Procedure Deployed).run := by
  refine solo_reads_bind (reads_push _ _ _) (fun synced => ?_) fun failure => hpost _ trivial
  refine solo_reads_bind (Contract.ensures_report_bind trivial trivial) (fun _ => ?_) fun failure =>
    hpost _ trivial
  exact hpost (.ok ⟨workflow, action, synced⟩) ⟨rfl, rfl⟩

theorem solo_update_bind {β : Type} {post : Store → Except Failure β → Prop}
    {next : Workflow → Procedure β} (hsound : S.Sound) (hmem : existing ∈ S.workflows)
    (hnext : ∀ now,
      solo.Secures post (S.replace (revised request existing now))
      (next (revised request existing now)).run) : solo.Secures post S
      (Procedure.attempt (send (.updateWorkflow existing.id (revise request existing))) >>=
        next).run := by
  have hupdates : ∀ now, S.updateWorkflow existing.id (revise request existing) now =
      .ok (revised request existing now, S.replace (revised request existing now)) := fun now =>
    updateWorkflow_eq_ok hsound (revise_identity request existing) (hsound.workflow?_of_mem hmem)
  rintro _ rfl
  refine ⟨trivial, fun answer T hanswer => ?_⟩
  cases hanswer with
  | updateWorkflow hupdate =>
    obtain ⟨rfl, rfl⟩ := Prod.mk.inj (Except.ok.inj (hupdate.symm.trans (hupdates _)))
    exact hnext _
  | refuseUpdate hupdate => exact nomatch hupdate.symm.trans (hupdates _)

theorem becomes_update (hsound : S.Sound)
    (hfound : S.bySignature? request.app request.graph.signature true = some existing) :
    solo.Secures (Becomes request S) S (update c request existing).run := by
  rw [update]
  refine solo_reads_bind (reads_compile _ _) (fun plan => ?_) .refused
  refine solo_update_bind hsound (bySignature?_eq_some hfound).1 fun now => ?_
  exact solo_push fun outcome htells => .revised now hfound htells

theorem solo_chooseName : solo.Secures (fun T outcome => T = S ∧
      ∀ name, outcome = .ok name →
        name ∉ S.usedNames request.app) S (chooseName request signature).run := by
  rw [chooseName]
  refine solo_ask_bind fun used T hanswer => ?_
  cases hanswer
  dsimp only
  split
  · next name hpicked =>
    refine ⟨rfl, fun name' hname => ?_⟩
    obtain rfl := Except.ok.inj hname
    exact pick_notMem hpicked
  · refine ⟨rfl, fun name hname => ?_⟩
    cases hname

theorem becomes_insert (hnone : S.bySignature? request.app request.graph.signature true = none)
    (attempts : Nat) :
    solo.Secures (Becomes request S) S (insert c request request.graph.signature attempts).run := by
  induction attempts with
  | zero => exact .refused _
  | succ attempts ih =>
    rw [insert]
    refine Surroundings.secures_run_bind solo_chooseName (fun T name hT => ?_) fun T failure hT =>
      hT.1 ▸ .refused failure
    obtain ⟨rfl, hname⟩ := hT
    have hfree := hname name rfl
    refine solo_reads_bind (reads_compile _ _) (fun plan => ?_) .refused
    refine solo_ask_bind fun answer T hanswer => ?_
    cases hanswer with
    | insertWorkflow hinsert =>
      exact solo_push fun outcome htells => .stored hnone hfree hinsert htells
    | @refuseInsert _ _ _ _ failure hinsert =>
      split
      · next heq => cases heq
      -- nobody else has stored a workflow of the signature meanwhile
      · refine solo_ask_bind fun winner T hanswer => ?_
        cases hanswer
        rw [hnone]
        exact solo_reads_bind (Contract.ensures_report_bind trivial trivial) (fun _ => ih) .refused
      · exact .refused _

theorem becomes_deploy (hsound : S.Sound) :
    solo.Secures (Becomes request S) S (deploy c request).run := by
  rw [deploy]
  dsimp only
  split
  · exact .refused _
  · refine solo_ask_bind fun existing T hanswer => ?_
    cases hanswer
    split
    · next existing hexisting => exact becomes_update hsound hexisting
    · next hnone => exact becomes_insert hnone insertAttempts

/-- A stored workflow that is as a request says: nothing is left to revise in it. -/
structure Conforms (request : DeployRequest) (T : Store) (workflow : Workflow) : Prop where
  sound : T.Sound
  mem : workflow ∈ T.workflows
  app : workflow.appId = request.app
  signature : workflow.signature = request.graph.signature
  settled : revise request workflow workflow = workflow

theorem nonEmptyOr_nonEmptyOr (new old : Option String) :
    nonEmptyOr new (nonEmptyOr new old) = nonEmptyOr new old := by
  rw [nonEmptyOr, nonEmptyOr]
  split <;> rfl

theorem nonEmptyOr_self (text : Option String) : nonEmptyOr text text = text := by
  rw [nonEmptyOr]
  split
  · next text' hfilter => exact (Option.filter_eq_some_iff.mp hfilter).1.symm
  · rfl

theorem revise_revised (request : DeployRequest) (workflow : Workflow) (now : Time) :
    revise request (revised request workflow now) (revised request workflow now) =
      revised request workflow now := by
  simp only [revise, revised, ← Option.or_assoc, Option.or_self, nonEmptyOr_nonEmptyOr]

def drafted (request : DeployRequest) (name id : String) (now : Time) : Workflow where
  id := id
  appId := request.app
  name := name
  description := request.description
  category := request.category
  channel := request.channel
  audience := request.audience
  styleName := request.styleName
  signature := request.graph.signature
  signatureName := name
  dag := request.graph.write
  flowPath := some (Signature.flowPath request.app name)
  status := Workflow.activeStatus
  createdAt := some now
  updatedAt := now

theorem revise_drafted (request : DeployRequest) (name id : String) (now : Time) :
    revise request (drafted request name id now) (drafted request name id now) =
      drafted request name id now := by
  simp only [revise, drafted, Option.or_self, nonEmptyOr_self]

theorem eq_drafted {workflow : Workflow} {name freshId : String} {now : Time}
    (h : S.insertWorkflow (draft request request.graph.signature name) freshId now
      = .ok (workflow, T)) :
    workflow = drafted request name freshId now ∧
    T = { S with workflows := S.workflows ++ [workflow] } := by
  have hcomplete : (draft request request.graph.signature name).complete freshId now =
    some (drafted request name freshId now) := rfl
  rw [insertWorkflow, hcomplete] at h
  dsimp only at h
  split at h
  · cases h
    exact ⟨rfl, rfl⟩
  · cases h

theorem conforms_of_becomes {deployed : Deployed} (hsound : S.Sound)
    (h : Becomes request S T (.ok deployed)) : Conforms request T deployed.workflow := by
  cases h with
  | @revised existing _ now hfound htells =>
    obtain ⟨hmem, happ, hsignature⟩ := bySignature?_eq_some hfound
    rw [htells.1]
    exact ⟨hsound.replace hmem rfl, mem_replace hmem rfl, happ, hsignature,
      revise_revised request existing now⟩
  | @stored workflow name freshId now _ _ hnone hfree hinsert htells =>
    have hkeeps :
        Action.KeepsIdentity (.insertWorkflow (draft request request.graph.signature name)) :=
          trivial
    have hgrows := grows_of_answers hkeeps hsound (.insertWorkflow hinsert)
    obtain ⟨rfl, rfl⟩ := eq_drafted hinsert
    rw [htells.1]
    exact ⟨hgrows.sound, by simp, rfl, rfl, revise_drafted request name freshId now⟩

theorem Conforms.becomes {U : Store} {workflow : Workflow} {outcome : Except Failure Deployed}
    (h : Conforms request T workflow) (hbecomes : Becomes request T U outcome) :
    ∃ now, U = T.replace { workflow with updatedAt := now } ∧
      Tells { workflow with updatedAt := now } .updated outcome := by
  have hworkflow := h.sound.bySignature?_of_mem h.mem
  rw [h.app, h.signature] at hworkflow
  cases hbecomes with
  -- nothing was written, so the time of the update stays, too
  | refused failure => exact ⟨workflow.updatedAt, (h.sound.replace_self h.mem).symm, trivial⟩
  | @revised existing _ now hfound htells =>
    obtain rfl : workflow = existing := Option.some.inj (hworkflow.symm.trans hfound)
    rw [revised, h.settled] at htells ⊢
    exact ⟨now, rfl, htells⟩
  | stored hnone => exact nomatch hworkflow.symm.trans hnone

def Supplied (given old new : Option String) : Prop := new = old ∨ given ≠ none ∧ new = given

theorem supplied_or (given old : Option String) : Supplied given old (given.or old) := by
  cases given with
  | none => exact .inl rfl
  | some text => exact .inr ⟨Option.some_ne_none text, rfl⟩

theorem supplied_nonEmptyOr (given old : Option String) :
    Supplied given old (nonEmptyOr given old) := by
  rw [nonEmptyOr]
  split
  · next text hfilter =>
    have hgiven := (Option.filter_eq_some_iff.mp hfilter).1
    exact .inr ⟨hgiven ▸ Option.some_ne_none text, hgiven.symm⟩
  · exact .inl rfl

structure Overwritten (request : DeployRequest) (old new : Workflow) : Prop where
  identity : new.identity = old.identity
  styleName : new.styleName = old.styleName
  createdAt : new.createdAt = old.createdAt
  description : Supplied request.description old.description new.description
  category : Supplied request.category old.category new.category
  channel : Supplied request.channel old.channel new.channel
  audience : Supplied request.audience old.audience new.audience

theorem overwritten_revised (request : DeployRequest) (old : Workflow) (now : Time) :
    Overwritten request old (revised request old now) where
  identity := rfl
  styleName := rfl
  createdAt := rfl
  description := supplied_or _ _
  category := supplied_nonEmptyOr _ _
  channel := supplied_nonEmptyOr _ _
  audience := supplied_nonEmptyOr _ _

structure Merged (request : DeployRequest) (S T : Store) (deployed : Deployed) : Prop where
  others : T.workflows.filter (·.id != deployed.workflow.id) =
    S.workflows.filter (·.id != deployed.workflow.id)
  runs : T.runs = S.runs
  updated : ∀ old ∈ S.workflows, old.appId = request.app → old.signature = request.graph.signature →
    deployed.action = .updated ∧ Overwritten request old deployed.workflow
  created :
    (∀ old ∈ S.workflows, old.appId = request.app → old.signature ≠ request.graph.signature) →
      deployed.action = .created ∧ (∀ old ∈ S.workflows, old.id ≠ deployed.workflow.id) ∧
      ∀ old ∈ S.workflows, old.appId = request.app →
        old.name ≠ deployed.workflow.name ∧ old.signatureName ≠ deployed.workflow.signatureName

structure Upserted (request : DeployRequest) (S T : Store) (deployed : Deployed) : Prop
    extends Merged request S T deployed where
  one :
    T.workflows.filter (fun w => w.appId == request.app && w.signature == request.graph.signature) =
      [deployed.workflow]
  active : deployed.workflow.status = Workflow.activeStatus
  dag : deployed.workflow.dag = request.graph.write
  signature : deployed.workflow.dag.signature = deployed.workflow.signature
  again : ∀ c U outcome, Program.Ends Store.Answers T (deploy c request).run U outcome →
    ∃ now, U = T.replace { deployed.workflow with updatedAt := now } ∧
      Tells { deployed.workflow with updatedAt := now } .updated outcome

theorem ends_becomes {outcome : Except Failure Deployed} (hsound : S.Sound)
    (hends : Program.Ends Store.Answers S (deploy c request).run T outcome) :
    Becomes request S T outcome := Program.Ends.secured (fun _ => rfl) hends (becomes_deploy hsound)

theorem merged_of_revised (hsound : S.Sound) {now : Time} {synced : Bool}
    (hfound : S.bySignature? request.app request.graph.signature true = some existing) :
    Merged request S (S.replace (revised request existing now)) ⟨revised request existing now,
      .updated, synced⟩ := by
  obtain ⟨hmem, happ, hsignature⟩ := bySignature?_eq_some hfound
  refine ⟨filter_replace S _, rfl, fun old hold happ' hsignature' => ?_, fun hnone => ?_⟩
  · obtain rfl :=
      hsound.eq_of_signature hmem hold (happ'.trans happ.symm) (hsignature'.trans hsignature.symm)
    exact ⟨rfl, overwritten_revised request old now⟩
  · exact absurd hsignature (hnone existing hmem happ)

theorem merged_of_drafted (hnames : ∀ i ∈ S.identities, i.name = i.signatureName)
    {name freshId : String} {now : Time} {synced : Bool}
    (hnone : S.bySignature? request.app request.graph.signature true = none)
    (hfree : name ∉ S.usedNames request.app)
    (hinsert : S.insertWorkflow (draft request request.graph.signature name) freshId now =
      .ok (drafted request name freshId now, T)) :
    Merged request S T ⟨drafted request name freshId now, .created, synced⟩ := by
  have hfresh : ∀ old ∈ S.workflows, old.id ≠ freshId := fun old hold =>
    ((identities_of_insert hinsert).2.2 old.identity (mem_identities hold)).id
  obtain ⟨-, rfl⟩ := eq_drafted hinsert
  refine ⟨?_, rfl, fun old hold happ hsignature => ?_,
    fun _ => ⟨rfl, hfresh, fun old hold happ => ?_⟩⟩
  · rw [List.filter_append, List.filter_singleton]
    simp
  · exact absurd hsignature (bySignature?_eq_none hnone (mem_identities hold) happ)
  · have hused : old.signatureName ≠ name := by
      rintro rfl
      exact hfree (List.mem_map.mpr ⟨old, List.mem_filter.mpr ⟨hold, beq_iff_eq.mpr happ⟩, rfl⟩)
    have hname : old.name = old.signatureName := hnames old.identity (mem_identities hold)
    exact ⟨hname ▸ hused, hused⟩

theorem upserted_of_becomes {deployed : Deployed} (hsound : S.Sound)
    (hnames : ∀ i ∈ S.identities, i.name = i.signatureName)
    (h : Becomes request S T (.ok deployed)) : Upserted request S T deployed := by
  have hconforms := conforms_of_becomes hsound h
  obtain ⟨workflow, action, synced⟩ := deployed
  have hmerged : Merged request S T ⟨workflow, action, synced⟩ := by
    cases h with
    | revised now hfound htells =>
      obtain ⟨rfl, rfl⟩ := htells
      exact merged_of_revised hsound hfound
    | stored hnone hfree hinsert htells =>
      obtain ⟨rfl, rfl⟩ := htells
      obtain ⟨rfl, -⟩ := eq_drafted hinsert
      exact merged_of_drafted hnames hnone hfree hinsert
  have hdag : workflow.dag = request.graph.write := congrArg Workflow.dag hconforms.settled.symm
  refine { hmerged with
    one := ?_
    active := congrArg Workflow.status hconforms.settled.symm
    dag := hdag
    signature := (congrArg Json.signature hdag).trans hconforms.signature.symm
    again := fun c U outcome hends => hconforms.becomes (ends_becomes hconforms.sound hends) }
  rw [← hconforms.app, ← hconforms.signature]
  exact hconforms.sound.filter_signature hconforms.mem

end Deployer

open Deployer

structure Store.Named (store : Store) : Prop where
  deployed : store.Deployed
  named : ∀ i ∈ store.identities, i.name = i.signatureName

theorem Store.Named.answers {store store' : Store} {history : List Exchange} {action : Action}
    {answer : action.Answer} (h : store.Named) (hmay : deploying.may history action)
    (hanswer : store.Answers action answer store') : store'.Named := by
  refine ⟨h.deployed.answers hmay hanswer, fun i hi => ?_⟩
  cases hanswer with
  | insertWorkflow hinsert =>
    obtain ⟨request, signature, name, _, rfl⟩ := hmay
    obtain ⟨hcomplete, hidentities, _⟩ := identities_of_insert hinsert
    obtain ⟨_, hcomplete', _, hidentity⟩ := exists_complete_draft request signature name _ _
    obtain rfl := Option.some.inj (hcomplete.symm.trans hcomplete')
    rcases List.mem_append.mp (hidentities ▸ hi) with hi | hi
    · exact h.named i hi
    · rw [List.mem_singleton.mp hi, hidentity]
  | updateWorkflow hupdate =>
    exact h.named i ((identities_of_update h.deployed.sound hmay hupdate).1 ▸ hi)
  | insertRun | saveRun => cases hmay
  | _ => exact h.named i hi

theorem named_of_interleaving {s : System DeployCall (Except Failure DeployCall.Result)}
    (hrun : Relation.ReflTransGen (System.Step DeployCall.routine) ⟨{}, []⟩ s) : s.store.Named :=
  kept_of_interleaving ⟨⟨.nil, fun _ h => nomatch h⟩, fun _ h => nomatch h⟩
    (fun _ _ _ _ _ hkept => hkept.answers) hrun

/-- Deploying is an idempotent upsert. Over every store that deployments and deletions
reach from the empty one, a call that returns while nobody else works on the store leaves
one workflow of its app and signature, active and with the graph of the call, in the place
of the old one or under a name that was free. All else is as it was, and the same call
once more changes only the time of the update. -/
theorem upserted_of_deploy {s : System DeployCall (Except Failure DeployCall.Result)} {c : Context}
    {request : DeployRequest} {T : Store} {deployed : Deployed}
    (hrun : Relation.ReflTransGen (System.Step DeployCall.routine) ⟨{}, []⟩ s)
    (hends : Program.Ends Store.Answers s.store (deploy c request).run T (.ok deployed)) :
    Upserted request s.store T deployed :=
  have hnamed := named_of_interleaving hrun
  upserted_of_becomes hnamed.deployed.sound hnamed.named (ends_becomes hnamed.deployed.sound hends)

def nightlyRequest : DeployRequest :=
  { app := "shop", graph := pausing, styleName := some "nightly" }

def retirement : DeployCall := .delete ⟨false, .builtIn⟩ (newText [])

def retired : System DeployCall (Except Failure DeployCall.Result) :=
  (List.replicate 6 0 ++ List.replicate 6 1).foldl System.advance
    ⟨{}, [⟨nightly, [], nightly.routine⟩, ⟨retirement, [], retirement.routine⟩]⟩

def Deployed.revives? : Except Failure Deployed → Bool
  | .ok deployed => deployed.action == .updated
  | .error _ => false

theorem upserted_of_revival : ∃ T deployed,
    Relation.ReflTransGen (System.Step DeployCall.routine) ⟨{}, []⟩ retired ∧
    retired.store.workflows.map Workflow.isDeleted = [true] ∧
    Program.Ends Store.Answers retired.store (deploy ⟨false, .builtIn⟩ nightlyRequest).run T
      (.ok deployed) ∧
    deployed.action = .updated ∧ Upserted nightlyRequest retired.store T deployed := by
  have hends := Program.ends_run (fun s request => Store.answers_respond s request)
    (deploy ⟨false, .builtIn⟩ nightlyRequest).run retired.store
  have hrevives : Deployed.revives?
    ((deploy ⟨false, .builtIn⟩ nightlyRequest).run.run Store.respond retired.store).1 = true := by
      decide +kernel
  have hrun : Relation.ReflTransGen (System.Step DeployCall.routine) ⟨{}, []⟩ retired :=
    run_of_two nightly retirement _
  generalize (deploy ⟨false, .builtIn⟩ nightlyRequest).run.run Store.respond retired.store =
    final at hends hrevives
  obtain ⟨outcome, T⟩ := final
  cases outcome with
  | error failure => cases hrevives
  | ok deployed =>
    exact ⟨T, deployed,
      hrun, by decide +kernel, hends, eq_of_beq hrevives, upserted_of_deploy hrun hends⟩

end Flowplan
