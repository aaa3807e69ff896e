import Flowplan.Proofs.Deploy.Conduct
import Flowplan.Proofs.Outage

namespace Flowplan

inductive DeployCall
  | deploy (c : Deployer.Context) (request : DeployRequest)
  | delete (c : Deployer.Context) (id : String)

namespace DeployCall

inductive Result
  | deployed (deployed : Deployed)
  | deleted (workflow : Workflow)

def routine : DeployCall → Routine (Except Failure Result)
  | .deploy c request => Except.map .deployed <$> (Deployer.deploy c request).run
  | .delete c id => Except.map .deleted <$> (Deployer.delete c id).run

def EndsFrom (start : Store) : DeployCall → Store × List Exchange → Except Failure Result → Prop
  | .deploy _ request, s, outcome => ∃ landed, outcome = Except.map .deployed landed ∧
      Deployer.Lands request.app request.graph.signature Deployer.insertAttempts start [] s landed
  | .delete .., _, outcome => ∃ deleted, outcome = Except.map .deleted deleted

def Ends (starts : Nat → Store → Prop) (i : Nat) (call : DeployCall) (s : Store × List Exchange)
    (outcome : Except Failure Result) : Prop :=
  ∃ start, starts i start ∧ call.EndsFrom start s outcome

theorem secures_endsFrom (call : DeployCall) (start : Store) :
    Store.amid.Secures (call.EndsFrom start) (start, []) call.routine := by
  cases call with
  | deploy c request =>
    exact Surroundings.secures_map.mpr
      (Deployer.secures_deploy.imp fun s landed hlands => ⟨landed, rfl, hlands⟩)
  | delete c id =>
    exact Surroundings.secures_map.mpr
      ((Deployer.quiet_delete id).imp fun s deleted _ => ⟨deleted, rfl⟩)

variable {starts : Nat → Store → Prop}

theorem Ends.later (i : Nat) (call : DeployCall) (s t : Store × List Exchange)
    (outcome : Except Failure Result) (hothers : Store.amid.others s t)
    (h : Ends starts i call s outcome) : Ends starts i call t outcome := by
  obtain ⟨start, hstart, hends⟩ := h
  refine ⟨start, hstart, ?_⟩
  cases call with
  | deploy c request =>
    obtain ⟨landed, houtcome, hlands⟩ := hends
    exact ⟨landed, houtcome, hlands.later hothers⟩
  | delete c id => exact hends

def Returns (s : System DeployCall (Except Failure Result)) (i : Nat) (request : DeployRequest)
    (deployed : Deployed) : Prop :=
  ∃ c history, s.tasks[i]? = some ⟨.deploy c request, history, .done (.ok (.deployed deployed))⟩

end DeployCall

open DeployCall

section Interleaved

variable {store : Store} {s t : System DeployCall (Except Failure DeployCall.Result)}

namespace DeployCall

variable {starts : Nat → Store → Prop} {started i : Nat} {request : DeployRequest}
  {deployed : Deployed}

theorem secures_ends (hstarts : ∀ i start, started ≤ i → starts i start) (i : Nat)
    (call : DeployCall) (start : Store) (hi : started ≤ i) :
    Store.amid.Secures (Ends starts i call) (start, []) call.routine :=
  (secures_endsFrom call start).imp fun _ _ hends => ⟨start, hstarts i start hi, hends⟩

theorem secured_of_run (hstarts : ∀ i start, started ≤ i → starts i start)
    (hlength : started ≤ s.tasks.length) (h : s.Secured (Ends starts))
    (hrun : Relation.ReflTransGen (System.FairStep routine) s t) :
    t.Secured (Ends starts) ∧ s.store.Grows t.store := by
  have hall :=
    h.run Ends.later (fun i call start hi _ => secures_ends hstarts i call start hi) hlength hrun
  exact ⟨hall.1, hall.2.1⟩

theorem lands_of_returns (h : s.Secured (Ends starts)) (hreturns : Returns s i request deployed) :
    deployed.workflow.identity ∈ s.store.identities ∧ deployed.workflow.appId = request.app ∧
      deployed.workflow.signature = request.graph.signature ∧
      (deployed.action = .created → s.Inserts i deployed.workflow) := by
  obtain ⟨c, history, htask⟩ := hreturns
  obtain ⟨start, _, landed, houtcome, hlands⟩ := h.task i _ htask
  cases landed with
  | ok other =>
    cases houtcome
    obtain ⟨hmem, happ, hsignature, hcreated⟩ := hlands
    exact ⟨hmem, happ, hsignature, fun haction => ⟨_, htask, hcreated haction⟩⟩
  | error failure => cases houtcome

theorem secured_of_start (h : s.Secured (Ends starts)) (call : DeployCall) :
    (⟨s.store, s.tasks ++ [⟨call, [], call.routine⟩]⟩ : System DeployCall
      (Except Failure Result)).Secured (Ends fun i start => i = s.tasks.length →
        start = s.store) := by
  refine ⟨h.sound, fun i task htask => ?_⟩
  rcases System.getElem?_start htask with htask | ⟨rfl, rfl⟩
  · have hi : i ≠ s.tasks.length := Nat.ne_of_lt (List.getElem?_eq_some_iff.mp htask).1
    exact (h.task i task htask).imp fun _ _ ⟨start, _, hends⟩ =>
      ⟨start, fun heq => absurd heq hi, hends⟩
  · exact (secures_endsFrom call s.store).imp fun _ _ hends => ⟨s.store, fun _ => rfl, hends⟩

theorem exists_others_of_nameless {start : Store} {c : Deployer.Context} {history : List Exchange}
    {failure : Failure} (hgrows : start.Grows t.store) (hnameless : failure.isNameless = true)
    (hends : EndsFrom start (.deploy c request) (t.store, history) (.error failure)) :
    inserted history = [] ∧ ∃ others, t.store.identities = start.identities ++ others ∧
      3 ≤ (others.filter (·.appId == request.app)).length := by
  obtain ⟨landed, houtcome, hlands⟩ := hends
  cases landed with
  | ok deployed => cases houtcome
  | error other =>
    cases houtcome
    obtain ⟨hinserted, hlength⟩ := hlands hnameless
    obtain ⟨others, hothers⟩ := hgrows.identities
    refine ⟨hinserted, others, hothers.symm, ?_⟩
    simp only [Store.ofApp, ← hothers, List.filter_append, List.length_append] at hlength
    exact Nat.le_of_add_le_add_left hlength

end DeployCall

/-- The law of deployments, for every interleaving of calls over a store: an app has one
workflow of a signature and one of a name; a deployment that returns has a workflow of its
own app and signature; of those that say that they created it there is one; what a
workflow is known by stays; and a deployment only fails for want of a name if three others
stored a workflow of the app while it ran. -/
theorem deployment_of_interleaving (hsound : store.Sound)
    (hrun : Relation.ReflTransGen (System.FairStep DeployCall.routine) ⟨store, []⟩ s) :
    s.store.Sound ∧
    (∀ i request deployed, Returns s i request deployed →
      deployed.workflow.appId = request.app ∧
      deployed.workflow.signature = request.graph.signature) ∧
    (∀ i j request request' deployed deployed', Returns s i request deployed →
      Returns s j request' deployed' →
      request.app = request'.app → request.graph.signature = request'.graph.signature →
      deployed.action = .created → deployed'.action = .created → i = j) ∧
    (∀ t, Relation.ReflTransGen (System.FairStep DeployCall.routine) s t → ∀ id workflow,
      s.store.workflow? id = some workflow →
      ∃ workflow', t.store.workflow? id = some workflow' ∧ workflow'.identity = workflow.identity) ∧
    (∀ c request t history signature app, Relation.ReflTransGen (System.FairStep DeployCall.routine)
        ⟨s.store, s.tasks ++ [⟨.deploy c request, [], routine (.deploy c request)⟩]⟩ t →
      t.tasks[s.tasks.length]? =
        some ⟨.deploy c request, history, .done (.error (.noFreeName signature app))⟩ →
      inserted history = [] ∧ ∃ others, t.store.identities = s.store.identities ++ others ∧
        3 ≤ (others.filter (·.appId == request.app)).length) := by
  have hstarts : ∀ i (start : Store), 0 ≤ i → True := fun _ _ _ => trivial
  have hempty : (⟨store, []⟩ : System DeployCall (Except Failure Result)).Secured
      (Ends fun _ _ => True) := ⟨hsound, fun _ _ htask => nomatch htask⟩
  have hsecured := (secured_of_run hstarts (Nat.zero_le _) hempty hrun).1
  have haccounted : s.Accounted := hempty.accounted Ends.later
    (fun i call start hi _ => secures_ends hstarts i call start hi) (Nat.zero_le _)
      (System.accounted_nil store) hrun
  refine ⟨hsecured.sound, ?_, ?_, ?_, ?_⟩
  · intro i request deployed hreturns
    obtain ⟨_, happ, hsignature, _⟩ := lands_of_returns hsecured hreturns
    exact ⟨happ, hsignature⟩
  · intro i j request request' deployed deployed' hreturns hreturns' happ hsignature
      hcreated hcreated'
    obtain ⟨hmem, happi, hsignaturei, hinserts⟩ := lands_of_returns hsecured hreturns
    obtain ⟨hmem', happj, hsignaturej, hinserts'⟩ := lands_of_returns hsecured hreturns'
    refine haccounted.once i j _ _ (hinserts hcreated) (hinserts' hcreated') ?_
    refine hsecured.sound.eq_of_not_apart hmem hmem' fun hapart => hapart.signature ?_ ?_
    · exact happi.trans (happ.trans happj.symm)
    · exact hsignaturei.trans (hsignature.trans hsignaturej.symm)
  · intro t hlater id workflow hfound
    obtain ⟨hmem, rfl⟩ := Store.workflow?_eq_some hfound
    obtain ⟨hlast, hgrows⟩ := secured_of_run hstarts (Nat.zero_le _) hsecured hlater
    exact Store.exists_workflow? hlast.sound (hgrows.identities.subset (Store.mem_identities hmem))
  · intro c request t history signature app hlater htask
    -- of the tasks from here on only the deployment itself has to start over a store that is known
    have hstarted : ∀ i (start : Store), s.tasks.length + 1 ≤ i → i = s.tasks.length →
        start = s.store := fun i start hi heq => by omega
    obtain ⟨hlast, hgrows⟩ :=
      secured_of_run hstarted (by simp) (secured_of_start hsecured (.deploy c request)) hlater
    obtain ⟨start, hstart, hends⟩ := hlast.task _ _ htask
    obtain rfl := hstart rfl
    exact exists_others_of_nameless hgrows rfl hends

end Interleaved

def pausing : Graph := ⟨[⟨"pause", StepType.wait, [], [], none⟩], [], none⟩

def nightly : DeployCall :=
  .deploy ⟨false, .builtIn⟩ { app := "shop", graph := pausing, styleName := some "nightly" }

/-- Two deployments of a graph that look for its signature, and choose a name, before either stores
a workflow. -/
def race : System DeployCall (Except Failure DeployCall.Result) :=
  [0, 1, 0, 1, 0, 1, 0, 1, 0, 1, 1, 1, 1, 1].foldl System.advance
    ⟨{}, [⟨nightly, [], nightly.routine⟩, ⟨nightly, [], nightly.routine⟩]⟩

def DeployCall.returned? (s : System DeployCall (Except Failure Result)) (i : Nat) :
    Option (DeployRequest × Deployed) :=
  match s.tasks[i]? with
  | some ⟨.deploy _ request, _, .done (.ok (.deployed deployed))⟩ => some (request, deployed)
  | _ => none

theorem DeployCall.exists_returns {s : System DeployCall (Except Failure Result)} {i : Nat}
    {action : DeployAction}
    (h : (returned? s i).any (fun (_, deployed) => deployed.action == action) = true) :
    ∃ request deployed, Returns s i request deployed ∧ deployed.action = action := by
  rw [returned?] at h
  split at h
  · next c request history deployed htask =>
      exact ⟨request, deployed, ⟨c, history, htask⟩, eq_of_beq h⟩
  · cases h

theorem run_race : Relation.ReflTransGen (System.FairStep DeployCall.routine) ⟨{}, []⟩ race := by
  have hfirst : System.FairStep DeployCall.routine ⟨{}, []⟩ _ := .start {} [] nightly
  exact ((Relation.ReflTransGen.single hfirst).tail (.start {} _ nightly)).trans
    (System.run_of_schedule _ _)

theorem deployment_of_race : race.store.Sound ∧ ∃ request request' first second,
    Returns race 0 request first ∧ first.action = .created ∧
    first.workflow.signature = request.graph.signature ∧
    Returns race 1 request' second ∧ second.action = .updated ∧
      second.workflow.signature = request'.graph.signature := by
  obtain ⟨request, first, hfirst, hcreated⟩ :=
    exists_returns
      (show (returned? race 0).any (fun (_, d) => d.action == .created) = true by decide +kernel)
  obtain ⟨request', second, hsecond, hupdated⟩ :=
    exists_returns
      (show (returned? race 1).any (fun (_, d) => d.action == .updated) = true by decide +kernel)
  have hempty : ({} : Store).Sound := .nil
  obtain ⟨hsound, hreturns, _⟩ := deployment_of_interleaving hempty run_race
  exact ⟨hsound, request, request', first, second, hfirst, hcreated,
    (hreturns 0 request first hfirst).2, hsecond, hupdated, (hreturns 1 request' second hsecond).2⟩

end Flowplan
