import Flowplan.Proofs.Deploy.Alone
import Flowplan.Proofs.Deploy.Concurrent

namespace Flowplan

namespace DeployCall

open Store

def context : DeployCall → Deployer.Context
  | .deploy c _ => c
  | .delete c _ => c

variable {s : Store × List Exchange} {call : DeployCall} {calls : List DeployCall}

theorem consistent_routine (hengine : call.context.hasEngine = true) (hs : Consistent s) :
    alone.Secures (fun s _ => Consistent s) s call.routine := by
  cases call with
  | deploy c request => exact Surroundings.secures_map.mpr (Deployer.consistent_deploy hengine hs)
  | delete c id => exact Surroundings.secures_map.mpr (Deployer.consistent_delete hengine id hs)

theorem consistent_calls (hengine : ∀ call ∈ calls, call.context.hasEngine = true)
    (hs : Consistent s) : alone.Secures (fun s _ => Consistent s) s (calls.mapM routine) := by
  induction calls generalizing s with
  | nil => exact hs
  | cons call calls ih =>
    rw [List.mapM_cons, Surroundings.secures_bind]
    refine (consistent_routine (hengine call List.mem_cons_self) hs).imp fun s _ hs => ?_
    rw [Surroundings.secures_bind]
    exact (ih (fun other hother => hengine other (List.mem_cons_of_mem call hother)) hs).imp
      fun s _ hs => hs

theorem consistent_nil : Consistent ({}, []) := by
  refine ⟨⟨.nil, fun _ h => nomatch h⟩, fun path => ⟨fun h => absurd h not_wanted_nil, ?_⟩⟩
  rintro ⟨w, hw, _⟩
  cases hw

end DeployCall

/-- The law of pushes, for every sequence of calls and every pattern of faults: a push fits what
the engine holds if and only if the engine holds the flow as it was last asked to, and so it does
if no request to set the flow up or to remove it was refused. -/
theorem push_fits_iff {calls : List DeployCall}
    (hengine : ∀ call ∈ calls, call.context.hasEngine = true) {store : Store}
    {history : List Exchange} {push : EngineCall} {path : String}
    (hasks : Program.Asks Store.alone.answers ({}, []) (calls.mapM DeployCall.routine)
      (store, history) (.engine push)) (hpush : push.pushed? = some path) :
    (push.Fits history ↔ (Holds history path ↔ Wanted history path)) ∧
      ((∀ e ∈ history, e.Creates path ∨ e.Deletes path → e.accepted = true) →
        push.Fits history) := by
  have hsecures := DeployCall.consistent_calls hengine DeployCall.consistent_nil
  have hfollows := Program.allowed_of_asks (fun _ => rfl) hsecures hasks push rfl
  have hiff := hfollows.fits_iff hpush
  exact ⟨hiff, fun haccepted => hiff.mpr (holds_iff_wanted haccepted)⟩

def EngineCall.assent : (call : EngineCall) → call.Reply
  | .createFlow flow => flow.path
  | .updateFlow _ | .deleteFlow _ | .cancelJob _ _ => ()
  | .getFlow _ => Json.null
  | .runFlow _ _ => "job"
  | .getJob id => (⟨some id, true, none, .null, none, none, none, []⟩ : Job)
  | .checkHealth => true

def Store.respondAlone (works : Bool) (action : Action) (s : Store × List Exchange) :
    action.Answer × (Store × List Exchange) :=
  match action, works with
  | .engine call, true => (.ok call.assent, s.1, s.2 ++ [⟨.engine call, .ok call.assent⟩])
  | action, _ =>
    let (answer, store) := Store.respond action s.1
    (answer, store, s.2 ++ [⟨action, answer⟩])

theorem Store.answers_respondAlone (works : Bool) (s : Store × List Exchange) (action : Action) :
    Store.alone.answers s action (respondAlone works action s).1
      (respondAlone works action s).2 := by
  cases action with
  | engine call =>
    cases works with
    | true => exact ⟨.engine s.1 nofun, trivial, rfl⟩
    | false => exact ⟨s.1.answers_respond (.engine call), ⟨_, rfl⟩, rfl⟩
  | _ => exact ⟨s.1.answers_respond _, trivial, rfl⟩

def redeployment : List DeployCall :=
  let call : DeployCall :=
    .deploy ⟨true, .builtIn⟩ { app := "shop", graph := pausing, styleName := some "nightly" }
  [call, call]

theorem hasEngine_redeployment : ∀ call ∈ redeployment, call.context.hasEngine = true := by
  simp [redeployment, DeployCall.context]

def redeploymentAsked (works : Bool) : List ((Store × List Exchange) × Action) :=
  (redeployment.mapM DeployCall.routine).asked (Store.respondAlone works) ({}, [])

theorem asks_of_redeployment {works : Bool} {p : List Exchange → Action → Bool}
    (h : (redeploymentAsked works).any (fun (s, action) => p s.2 action) = true) :
    ∃ store history action,
      Program.Asks Store.alone.answers ({}, []) (redeployment.mapM DeployCall.routine)
      (store, history) action ∧ p history action = true := by
  obtain ⟨⟨⟨store, history⟩, action⟩, hasked, hp⟩ := List.any_eq_true.mp h
  exact ⟨store, history, action,
    Program.asks_of_mem_asked id (Store.answers_respondAlone works) hasked, hp⟩

def Exchange.isRefused : Exchange → Bool
  | ⟨.engine _, .error _⟩ => true
  | _ => false

theorem Exchange.isRefused_of_creates_or_deletes {e : Exchange} {path : String}
    (h : e.Creates path ∨ e.Deletes path) (haccepted : e.accepted = false) :
    e.isRefused = true := by
  obtain ⟨action, answer⟩ := e
  cases action with
  | engine call => cases answer <;> simp_all [accepted, isRefused]
  | _ => simp [Exchange.Creates, Exchange.Deletes] at h

def isUpdateHeard (history : List Exchange) : Action → Bool
  | .engine (.updateFlow _) => history.all (!·.isRefused)
  | _ => false

def isUpdateUnheard (history : List Exchange) : Action → Bool
  | .engine (.updateFlow _) => history.all (!·.accepted)
  | _ => false

/-- A second deployment updates the flow that the engine has set up for the first one. -/
theorem push_fits_of_redeployment :
    ∃ store history flow, Program.Asks Store.alone.answers ({}, [])
      (redeployment.mapM DeployCall.routine) (store, history) (.engine (.updateFlow flow)) ∧
      (EngineCall.updateFlow flow).Fits history := by
  have hasked :
      (redeploymentAsked true).any (fun (s, action) => isUpdateHeard s.2 action) = true := by
    decide +kernel
  obtain ⟨store, history, action, hasks, hheard⟩ := asks_of_redeployment hasked
  unfold isUpdateHeard at hheard
  split at hheard
  · next flow =>
    refine ⟨store, history, flow, hasks, ?_⟩
    refine (push_fits_iff hasEngine_redeployment hasks rfl).2 fun e he hpath => ?_
    by_contra hrefused
    have hnone := List.all_eq_true.mp hheard e he
    simp [Exchange.isRefused_of_creates_or_deletes hpath (by simpa using hrefused)] at hnone
  · cases hheard

/-- A flow that the engine has never accepted is updated. -/
theorem not_fits_of_redeployment :
    ∃ calls : List DeployCall, (∀ call ∈ calls, call.context.hasEngine = true) ∧
    ∃ store history flow, Program.Asks Store.alone.answers ({}, []) (calls.mapM DeployCall.routine)
      (store, history) (.engine (.updateFlow flow)) ∧
      ¬ (EngineCall.updateFlow flow).Fits history := by
  have hasked :
      (redeploymentAsked false).any (fun (s, action) => isUpdateUnheard s.2 action) = true := by
    decide +kernel
  obtain ⟨store, history, action, hasks, hunheard⟩ := asks_of_redeployment hasked
  unfold isUpdateUnheard at hunheard
  split at hunheard
  · next flow =>
    refine ⟨redeployment, hasEngine_redeployment, store, history, flow, hasks, ?_⟩
    rintro ⟨before, e, after, rfl, ⟨_, haccepted⟩, _⟩
    have hnone := List.all_eq_true.mp hunheard e (by simp)
    simp [haccepted] at hnone
  · cases hunheard

end Flowplan
