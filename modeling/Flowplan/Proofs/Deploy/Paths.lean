import Flowplan.Proofs.Deploy.Alone
import Flowplan.Proofs.Deploy.Concurrent

namespace Flowplan

/-- What deployments and deletions keep to: a new workflow is named by a slug, and
what a stored one is known by is left alone. -/
def deploying : Contract where
  may _ action := match action with
    | .insertWorkflow draft => ∃ request signature name,
      Text.IsSlug name ∧ draft = Deployer.draft request signature name
    | .updateWorkflow _ change => ∀ w, (change w).identity = w.identity
    | .insertRun .. | .saveRun _ => False
    | _ => True
  expects _ _ := True

def Action.Reads : Action → Prop
  | .insertWorkflow _ | .updateWorkflow .. | .insertRun .. | .saveRun _ => False
  | _ => True

theorem Store.Answers.eq_of_reads {store store' : Store} {action : Action} {answer : action.Answer}
    (h : store.Answers action answer store') (hreads : action.Reads) : store' = store := by
  cases h with
  | insertWorkflow | updateWorkflow | insertRun | saveRun => cases hreads
  | _ => rfl

def reading : Contract where
  may _ action := action.Reads
  expects _ _ := True

namespace Deployer

variable {α β : Type} {history : List Exchange} {c : Context} {request : DeployRequest}
  {signature : String}

abbrev Reads (history : List Exchange) (procedure : Procedure α) : Prop :=
  reading.Ensures (fun _ _ => True) history procedure.run

theorem reads_bind {procedure : Procedure α} {next : α → Procedure β} (h : Reads history procedure)
    (hnext : ∀ history value, Reads history (next value)) : Reads history (procedure >>= next) :=
  Contract.ensures_run_bind h (fun history value _ => hnext history value) fun _ _ _ => trivial

theorem reads_reports (entries : List LogEntry) :
    Reads history (entries.forM fun entry => (Procedure.ask (.report entry) : Procedure Unit)) := by
  induction entries generalizing history with
  | nil => exact trivial
  | cons entry entries ih => exact Contract.ensures_ask_bind trivial fun _ _ => ih

theorem reads_compile (graph : Graph) (name : String) : Reads history (compile c graph name) := by
  rw [compile]
  split
  · exact reads_bind (reads_reports _) fun _ _ => trivial
  · exact trivial

theorem reads_settlePush (path : String) (fault? : Option EngineFault) :
    Reads history (settlePush path fault?) := by
  cases fault? with
  | none => exact trivial
  | some fault => exact Contract.ensures_report_bind trivial trivial

theorem reads_push (workflow : Workflow) (plan : Plan) (create : Bool) :
    Reads history (push c workflow plan create) := by
  rw [push]
  split
  · next path _ _ =>
    dsimp only
    split
    · rw [bind_map_left]
      exact Contract.ensures_tryCall_bind trivial (fun _ _ _ _ => reads_settlePush path _)
        fun _ _ => trivial
    · rw [bind_map_left]
      exact Contract.ensures_tryCall_bind trivial (fun _ _ _ _ => reads_settlePush path _)
        fun _ _ => trivial
  · exact trivial

theorem reads_removeFlow (workflow : Workflow) : Reads history (removeFlow c workflow) := by
  rw [removeFlow]
  split
  · refine Contract.ensures_tryCall_bind trivial (fun reply outcome _ _ => ?_) fun _ _ => trivial
    split
    · exact trivial
    · exact Contract.ensures_report_bind trivial trivial
  · exact trivial

abbrev Keeps (history : List Exchange) (procedure : Procedure α) : Prop :=
  deploying.Ensures (fun _ _ => True) history procedure.run

theorem Reads.keeps {procedure : Procedure α} (h : Reads history procedure) :
    Keeps history procedure := by
  refine Contract.Ensures.weaken (fun _ action hreads => ?_) (fun _ _ _ => trivial) h
  cases action with
  | insertWorkflow | updateWorkflow | insertRun | saveRun => cases hreads
  | _ => trivial

theorem keeps_bind {procedure : Procedure α} {next : α → Procedure β} (h : Keeps history procedure)
    (hnext : ∀ history value, Keeps history (next value)) : Keeps history (procedure >>= next) :=
  Contract.ensures_run_bind h (fun history value _ => hnext history value) fun _ _ _ => trivial

theorem keeps_update_bind {id : String} {change : Workflow → Workflow}
    {next : Workflow → Procedure α} (hchange : ∀ w, (change w).identity = w.identity)
    (hnext : ∀ history workflow, Keeps history (next workflow)) :
    Keeps history (Procedure.attempt (send (.updateWorkflow id change)) >>= next) := by
  refine ⟨hchange, fun answer _ => ?_⟩
  cases answer with
  | ok workflow => exact hnext _ workflow
  | error failure => exact trivial

theorem keeps_update (existing : Workflow) : Keeps history (update c request existing) := by
  rw [update]
  refine keeps_bind (reads_compile _ _).keeps fun history plan => ?_
  refine keeps_update_bind (revise_identity request existing) fun history workflow => ?_
  refine keeps_bind (reads_push _ _ _).keeps fun history synced => ?_
  exact Contract.ensures_report_bind trivial trivial

theorem ensures_chooseName :
    deploying.Ensures (fun _ outcome => ∀ name, outcome = .ok name → Text.IsSlug name) history
    (chooseName request signature).run := by
  refine Contract.ensures_ask_bind trivial fun used _ => ?_
  dsimp only
  split
  · next name hpicked =>
    intro name' hname
    obtain rfl := Except.ok.inj hname
    exact isSlug_of_pick hpicked
  · exact fun _ hname => nomatch hname

theorem keeps_insert (attempts : Nat) : Keeps history (insert c request signature attempts) := by
  induction attempts generalizing history with
  | zero => exact trivial
  | succ attempts ih =>
    rw [insert]
    refine Contract.ensures_run_bind ensures_chooseName (fun history name hslug => ?_) fun _ _ _ =>
      trivial
    refine keeps_bind (reads_compile _ _).keeps fun history plan => ?_
    refine Contract.ensures_ask_bind ⟨request, signature, name, hslug name rfl, rfl⟩
      fun outcome _ => ?_
    split
    · refine keeps_bind (reads_push _ _ _).keeps fun history synced => ?_
      exact Contract.ensures_report_bind trivial trivial
    · refine Contract.ensures_ask_bind trivial fun winner _ => ?_
      split
      · exact Contract.ensures_report_bind trivial (keeps_update _)
      · exact Contract.ensures_report_bind trivial ih
    · exact trivial

theorem keeps_deploy : Keeps history (deploy c request) := by
  rw [deploy]
  dsimp only
  split
  · exact trivial
  · refine Contract.ensures_ask_bind trivial fun existing _ => ?_
    split
    · exact keeps_update _
    · exact keeps_insert _

theorem keeps_delete (id : String) : Keeps history (delete c id) := by
  refine Contract.ensures_ask_bind trivial fun found _ => ?_
  split
  · exact trivial
  · refine keeps_bind (reads_removeFlow _).keeps fun history _ => ?_
    refine keeps_update_bind (fun _ => rfl) fun history deleted => ?_
    exact Contract.ensures_report_bind trivial trivial

end Deployer

namespace DeployCall

theorem keeps_routine (call : DeployCall) :
    deploying.Ensures (fun _ _ => True) [] call.routine := by
  cases call with
  | deploy c request => exact Contract.ensures_map.mpr Deployer.keeps_deploy
  | delete c id => exact Contract.ensures_map.mpr (Deployer.keeps_delete id)

end DeployCall

namespace Store

variable {store store' : Store}

theorem Deployed.answers {history : List Exchange} {action : Action} {answer : action.Answer}
    (h : store.Deployed) (hmay : deploying.may history action)
    (hanswer : store.Answers action answer store') : store'.Deployed := by
  cases hanswer with
  | insertWorkflow hinsert =>
    obtain ⟨request, signature, name, hslug, rfl⟩ := hmay
    exact h.insert (Deployer.deployed_of_draft hslug hinsert).1 hinsert
  | updateWorkflow hupdate => exact h.update hmay hupdate
  | insertRun | saveRun => cases hmay
  | _ => exact h

theorem Deployed.nodup_map_flowPath (h : store.Deployed) :
    (store.workflows.map Workflow.flowPath).Nodup := by
  have hidentities : store.identities.Nodup :=
    List.Pairwise.imp (fun hapart heq => hapart.id (congrArg Identity.id heq)) h.sound
  have hpaths : (store.identities.map Identity.flowPath).Nodup :=
    hidentities.map_on fun a ha b hb hpath => h.eq_of_flowPath ha hb hpath
  simpa [identities, Function.comp_def, Workflow.identity] using hpaths

end Store

section Interleaved

variable {s t : System DeployCall (Except Failure DeployCall.Result)}

theorem kept_of_interleaving {kept : Store → Prop} (hempty : kept {})
    (hanswers : ∀ store store' history action answer, kept store → deploying.may history action →
      Store.Answers store action answer store' → kept store')
    (hrun : Relation.ReflTransGen (System.Step DeployCall.routine) ⟨{}, []⟩ s) : kept s.store := by
  have hexpects : ∀ store action answer store', Store.Answers store action answer store' →
    deploying.expects action answer := fun _ _ _ _ _ => trivial
  induction hrun with
  | refl => exact hempty
  | tail hbefore hstep ih =>
    have hkept : deploying.Kept (fun _ _ _ => True) _ :=
      Contract.kept_of_run hexpects DeployCall.keeps_routine hbefore
    rcases hkept.exists_answer hstep with hsame | ⟨history, action, answer, hmay, hanswer⟩
    · exact hsame ▸ ih
    · exact hanswers _ _ history action answer ih hmay hanswer

theorem deployed_of_interleaving
    (hrun : Relation.ReflTransGen (System.Step DeployCall.routine) ⟨{}, []⟩ s) : s.store.Deployed :=
  kept_of_interleaving ⟨.nil, fun _ h => nomatch h⟩ (fun _ _ _ _ _ hkept => hkept.answers) hrun

/-- Different workflows have different flows: however deployments and deletions are
interleaved over an empty store, no two of the stored workflows, deleted ones included, have
the same path, whatever their apps, graphs and styles. -/
theorem nodup_flowPath_of_interleaving
    (hrun : Relation.ReflTransGen (System.Step DeployCall.routine) ⟨{}, []⟩ s) :
    (s.store.workflows.map Workflow.flowPath).Nodup :=
  (deployed_of_interleaving hrun).nodup_map_flowPath

end Interleaved

theorem run_of_two (call call' : DeployCall) (schedule : List Nat) :
    Relation.ReflTransGen (System.Step DeployCall.routine) ⟨{}, []⟩
      (schedule.foldl System.advance
        ⟨{}, [⟨call, [], call.routine⟩, ⟨call', [], call'.routine⟩]⟩) := by
  have hfirst : System.FairStep DeployCall.routine ⟨{}, []⟩ _ := .start {} [] call
  have hrun := ((Relation.ReflTransGen.single hfirst).tail (.start {} _ call')).trans
    (System.run_of_schedule _ schedule)
  refine hrun.lift id fun _ _ hstep => ?_
  cases hstep with
  | start store tasks call => exact .start store tasks call
  | answer before after hanswer hfair => exact .answer before after hanswer

def resting : Graph := ⟨[⟨"rest", StepType.wait, [], [], none⟩], [], none⟩

def nightlyToo : DeployCall :=
  .deploy ⟨false, .builtIn⟩ { app := "shop", graph := resting, styleName := some "Nightly!" }

def nightlies : System DeployCall (Except Failure DeployCall.Result) :=
  (List.replicate 6 0 ++ List.replicate 6 1).foldl System.advance
    ⟨{}, [⟨nightly, [], nightly.routine⟩, ⟨nightlyToo, [], nightlyToo.routine⟩]⟩

theorem run_nightlies : Relation.ReflTransGen (System.Step DeployCall.routine) ⟨{}, []⟩ nightlies :=
  run_of_two nightly nightlyToo _

theorem nodup_flowPath_of_nightlies : ∃ s : System DeployCall (Except Failure DeployCall.Result),
    Relation.ReflTransGen (System.Step DeployCall.routine) ⟨{}, []⟩ s ∧
    s.store.workflows.map Workflow.flowPath =
      [some "f/workflows/shop/nightly_v1", some "f/workflows/shop/nightly_v2"] ∧
    (s.store.workflows.map Workflow.flowPath).Nodup :=
  ⟨nightlies, run_nightlies, by decide +kernel, nodup_flowPath_of_interleaving run_nightlies⟩

end Flowplan
