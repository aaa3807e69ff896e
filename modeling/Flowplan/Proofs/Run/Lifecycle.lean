import Flowplan.Proofs.Run.Routines

namespace Flowplan

/-- A call that follows or ends runs. A copy that is refreshed or polled may be any copy. A tick
keeps what goes wrong in a poll to itself, so that one poll is a call as well. -/
inductive RunCall
  | get (hasEngine : Bool) (id : String) (refreshed : Bool)
  | refresh (hasEngine : Bool) (copy : Run)
  | cancel (hasEngine : Bool) (id : String)
  | poll (copy : Run) (jobId : String)
  | tick

namespace RunCall

inductive Result
  | run (run : Run)
  | polled (changed : Bool)
  | count (changed : Nat)

def routine : RunCall → Routine (Except Failure Result)
  | .get hasEngine id refreshed => Except.map .run <$> (RunService.get hasEngine id refreshed).run
  | .refresh hasEngine copy => Except.map .run <$> (RunService.refresh hasEngine copy).run
  | .cancel hasEngine id => Except.map .run <$> (RunService.cancel hasEngine id).run
  | .poll copy jobId => Except.map .polled <$> (Poller.poll copy jobId).run
  | .tick => (fun changed => .ok (.count changed)) <$> Poller.tick

def Refuses (call : RunCall) (history : List Exchange) (outcome : Except Failure Result) : Prop :=
  ∀ failure, outcome = .error failure → failure.isRefusedMove = true →
    ∃ hasEngine id run, call = .cancel hasEngine id ∧ run.status.isTerminal = true ∧
      history = [⟨.findRun id, some run⟩]

theorem eq_error_of_map {α : Type} {f : α → Result} {outcome : Except Failure α} {failure : Failure}
    (h : Except.map f outcome = .error failure) : outcome = .error failure := by
  cases outcome with
  | ok value => cases h
  | error other => exact congrArg Except.error (Except.error.inj h)

theorem ensures_refuses_of_unrefused {α : Type} {call : RunCall} {f : α → Result}
    {given : List Run} {routine : Routine (Except Failure α)}
    (h : (moving given).Ensures RunService.Unrefused [] routine) :
    (moving given).Ensures call.Refuses [] (Except.map f <$> routine) := by
  refine Contract.ensures_map.mpr (h.imp ?_)
  intro history outcome hun failure hfailure hrefused
  exact absurd hrefused (by simp [hun failure (eq_error_of_map hfailure)])

def given : RunCall → List Run
  | .refresh _ copy | .poll copy _ => [copy]
  | _ => []

theorem ensures_refuses (call : RunCall) :
    (moving call.given).Ensures call.Refuses [] call.routine := by
  cases call with
  | get hasEngine id refreshed =>
    exact ensures_refuses_of_unrefused (RunService.ensures_get hasEngine id refreshed)
  | refresh hasEngine copy =>
    apply ensures_refuses_of_unrefused
    apply RunService.ensures_refresh
    simp [known, given]
  | cancel hasEngine id =>
    refine Contract.ensures_map.mpr ((RunService.ensures_cancel hasEngine id).imp ?_)
    intro history outcome hcancel failure hfailure hrefused
    obtain ⟨run, hterminal, hhistory⟩ := hcancel failure (eq_error_of_map hfailure) hrefused
    exact ⟨hasEngine, id, run, rfl, hterminal, hhistory⟩
  | poll copy jobId =>
    apply ensures_refuses_of_unrefused
    apply Poller.ensures_poll
    simp [known, given]
  | tick =>
    refine Contract.ensures_map.mpr (Poller.keeps_tick.imp ?_)
    intro history changed _ failure hfailure
    cases hfailure

end RunCall

/-- The runs of a store as they are later: each has the same status or a
later one, and finished ones are as they were. -/
def Store.Advances (store store' : Store) : Prop :=
  ∀ id run, store.run? id = some run → ∃ run', store'.run? id = some run' ∧
    (run'.status = run.status ∨ run.status.canBecome run'.status = true) ∧
    (run.status.isTerminal = true → run' = run)

namespace Store

variable {store store' : Store}

theorem Advances.refl (store : Store) : store.Advances store :=
  fun _ run hrun => ⟨run, hrun, .inl rfl, fun _ => rfl⟩

theorem advances_saveRun {copy : Run} (hcopy : copy.status ≠ .queued) :
    store.Advances (store.saveRun copy).2 := by
  intro id run hrun
  by_cases hid : id = copy.id
  · subst hid
    rw [run?_saveRun_self, hrun]
    cases hterminal : run.status.isTerminal with
    | true => exact ⟨run, by simp [hterminal], .inl rfl, fun _ => rfl⟩
    | false =>
      refine ⟨overwrite run copy, by simp [hterminal], ?_, fun h => absurd h (by simp)⟩
      exact RunStatus.eq_or_canBecome hterminal hcopy
  · rw [run?_saveRun_of_ne hid]
    exact ⟨run, hrun, .inl rfl, fun _ => rfl⟩

theorem advances_of_answers {history : List Exchange} {action : Action} {answer : action.Answer}
    (hmay : lifecycle.may history action) (h : Answers store action answer store') :
    store.Advances store' := by
  cases h with
  | saveRun copy => exact advances_saveRun hmay
  | insertWorkflow | refuseInsert | updateWorkflow | refuseUpdate | insertRun => cases hmay
  | _ => exact .refl _

end Store

section Interleaved

variable {store : Store} {s t : System RunCall (Except Failure RunCall.Result)}

theorem expects_of_answers {action : Action} {answer : action.Answer} {store store' : Store}
    (h : Store.Answers store action answer store') : lifecycle.expects action answer := by
  cases h with
  | @engine call reply store hreply =>
    cases reply with
    | ok reply => exact trivial
    | error failure => exact hreply failure rfl
  | _ => exact trivial

theorem kept_of_runCalls
    (hrun : Relation.ReflTransGen (System.Step RunCall.routine) ⟨store, []⟩ s) :
    lifecycle.Kept RunCall.Refuses s :=
  Contract.kept_of_run (fun _ _ _ _ => expects_of_answers)
    (fun call => lifecycle_of_moving call.ensures_refuses) hrun

theorem advances_of_step (hkept : lifecycle.Kept RunCall.Refuses s)
    (hstep : System.Step RunCall.routine s t) : s.store.Advances t.store := by
  rcases hkept.exists_answer hstep with hsame | ⟨history, action, answer, hmay, hanswer⟩
  · exact hsame ▸ .refl s.store
  · exact Store.advances_of_answers hmay hanswer

theorem run?_of_isTerminal (hkept : lifecycle.Kept RunCall.Refuses s)
    (hrun : Relation.ReflTransGen (System.Step RunCall.routine) s t) {id : String} {run : Run}
    (hfound : s.store.run? id = some run) (hterminal : run.status.isTerminal = true) :
    t.store.run? id = some run := by
  induction hrun with
  | refl => exact hfound
  | tail hbefore hstep ih =>
    have hlater := hkept.run (fun _ _ _ _ => expects_of_answers)
      (fun call => lifecycle_of_moving call.ensures_refuses) hbefore
    obtain ⟨run', hrun', _, hsame⟩ := advances_of_step hlater hstep id run ih
    exact hsame hterminal ▸ hrun'

/-- The law of the life cycle, for every interleaving of calls over a store: the status of a stored
run is kept or moves on with every step, nothing of a finished run changes any more, and a move is
only refused to a cancellation that found a finished run. -/
theorem lifecycle_of_interleaving
    (hrun : Relation.ReflTransGen (System.Step RunCall.routine) ⟨store, []⟩ s) :
    (∀ t, System.Step RunCall.routine s t → ∀ id run, s.store.run? id = some run →
      ∃ run', t.store.run? id = some run' ∧
        (run'.status = run.status ∨ run.status.canBecome run'.status = true)) ∧
    (∀ t, Relation.ReflTransGen (System.Step RunCall.routine) s t → ∀ id run,
      s.store.run? id = some run →
      run.status.isTerminal = true → t.store.run? id = some run) ∧
    (∀ task ∈ s.tasks, ∀ failure, task.rest = .done (.error failure) →
      failure.isRefusedMove = true →
      ∃ hasEngine id run, task.call = .cancel hasEngine id ∧ run.status.isTerminal = true ∧
        task.history = [⟨.findRun id, some run⟩]) := by
  have hkept := kept_of_runCalls hrun
  refine ⟨?_, ?_, ?_⟩
  · intro t hstep id run hfound
    obtain ⟨run', hrun', hstatus, _⟩ := advances_of_step hkept hstep id run hfound
    exact ⟨run', hrun', hstatus⟩
  · intro t hlater id run hfound hterminal
    exact run?_of_isTerminal hkept hlater hfound hterminal
  · intro task htask failure hrest hrefused
    have hdone := hkept task htask
    rw [hrest] at hdone
    exact hdone failure rfl hrefused

def System.pendingRun : Run := .queued "run" none .null (some "job") ⟨0⟩

def System.endedJob : Job := ⟨some "job", false, some true, .null, none, none, none, []⟩

open Flowplan.System in
/-- A caller asks for the job of a run that another one cancels
meanwhile, and both hold a copy of the pending run. -/
theorem lifecycle_of_cancellation : ∃ s t u : System RunCall (Except Failure RunCall.Result),
    Relation.ReflTransGen (System.Step RunCall.routine) ⟨{ runs := [pendingRun] }, []⟩ s ∧
    s.store.run? "run" = some pendingRun ∧ System.Step RunCall.routine s t ∧
    System.Step RunCall.routine t u ∧
    (∃ run, t.store.run? "run" = some run ∧
      (run.status = pendingRun.status ∨ pendingRun.status.canBecome run.status = true)) ∧
    u.store.run? "run" =
      some { pendingRun with status := .cancelled, completedAt := some ⟨1⟩ } := by
  let cancelled : Run := { pendingRun with status := .cancelled, completedAt := some ⟨1⟩ }
  let completed : Run := { pendingRun with status := .completed, completedAt := some ⟨2⟩ }
  let store (run : Run) : Store := { runs := [run] }
  have hread : Store.Answers (store pendingRun) (.findRun "run") (some pendingRun)
      (store pendingRun) := .findRun _ "run"
  have hended : Store.Answers (store pendingRun) (.engine (.getJob "job")) (.ok endedJob)
      (store pendingRun) := .engine _ nofun
  have hlands : Store.Answers (store pendingRun) (.saveRun cancelled) (some ⟨cancelled, true⟩)
      (store cancelled) := .saveRun _ _
  have hdropped : Store.Answers (store cancelled) (.saveRun completed) (some ⟨cancelled, false⟩)
      (store cancelled) := .saveRun _ _
  have hfirst : System.Step RunCall.routine ⟨store pendingRun, []⟩ _ :=
    .start _ [] (.get true "run" true)
  have hcalls := (Relation.ReflTransGen.single hfirst).tail (.start _ _ (.cancel false "run"))
  have hreads := (hcalls.tail (.answer [] [_] hread)).tail (.answer [_] [] hread)
  have hjob := (hreads.tail (.answer [] [_] hended)).tail (.answer [] [_] (.readClock _ ⟨2⟩))
  have hready := hjob.tail (.answer [_] [] (.readClock _ ⟨1⟩))
  have hcancelled := hready.tail (.answer [_] [] hlands)
  refine ⟨_, _, _, hready, rfl, .answer [_] [] hlands, .answer [] [_] hdropped, ?_, ?_⟩
  · exact (lifecycle_of_interleaving hready).1 _ (.answer [_] [] hlands) "run" pendingRun rfl
  · exact (lifecycle_of_interleaving hcancelled).2.1 _ (.single (.answer [] [_] hdropped)) "run"
      cancelled rfl rfl

end Interleaved

end Flowplan
