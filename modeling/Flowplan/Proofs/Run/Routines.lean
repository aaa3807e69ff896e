import Flowplan.Proofs.Store.Save
import Flowplan.Run.Poller

namespace Flowplan

def lifecycle : Contract where
  may _ action := match action with
    | .findRun _ | .listActive | .engine _ | .readClock | .report _ | .beginPoll | .endPoll => True
    | .saveRun copy => copy.status ≠ .queued
    | _ => False
  expects action answer := match action, answer with
    | .engine _, .error failure => failure.isRefusedMove = false
    | _, _ => True

def Exchange.runs (exchange : Exchange) : List Run :=
  match exchange with
  | ⟨.findRun _, found⟩ => Option.toList found
  | ⟨.listActive, .ok runs⟩ => runs
  | _ => []

def known (given : List Run) (history : List Exchange) : List Run :=
  given ++ history.flatMap Exchange.runs

theorem mem_known_append {given : List Run} {history : List Exchange} {run : Run}
    (h : run ∈ known given history) (more : List Exchange) :
    run ∈ known given (history ++ more) := by
  simp only [known, List.flatMap_append, List.mem_append] at h ⊢
  exact h.elim .inl fun h => .inr (.inl h)

/-- What calls about runs that were given some keep to, too: a copy that
is written was made of a run that is known. -/
def moving (given : List Run) : Contract where
  may history action := match action with
    | .saveRun copy => ∃ run ∈ known given history, run.Moves copy
    | action => lifecycle.may history action
  expects := lifecycle.expects

theorem lifecycle_of_moving {α : Type} {given : List Run} {history : List Exchange}
    {post : List Exchange → α → Prop} {routine : Routine α}
    (h : (moving given).Ensures post history routine) : lifecycle.Ensures post history routine := by
  apply h.weaken
  · intro history action hmay
    cases action with
    | saveRun copy =>
      obtain ⟨run, -, hmoves⟩ := hmay
      exact hmoves.ne_queued
    | _ => exact hmay
  · exact fun _ _ hexpects => hexpects

namespace RunService

variable {given : List Run} {history : List Exchange} {run : Run} {α : Type}

def Unrefused (_ : List Exchange) (outcome : Except Failure α) : Prop :=
  ∀ failure, outcome = .error failure → failure.isRefusedMove = false

@[simp] theorem unrefused_ok (value : α) : Unrefused history (.ok value : Except Failure α) :=
  fun _ h => nomatch h

@[simp] theorem unrefused_error {failure : Failure} :
    Unrefused history (.error failure : Except Failure α) ↔ failure.isRefusedMove = false := by
  simp [Unrefused]

theorem ensures_save {copy : Run} (hrun : run ∈ known given history) (hcopy : run.Moves copy) :
    (moving given).Ensures Unrefused history (save copy).run := by
  refine Contract.ensures_ask_bind ⟨run, hrun, hcopy⟩ fun written _ => ?_
  cases written with
  | none => simp [Failure.isRefusedMove]
  | some written =>
    cases hlanded : written.landed with
    | true => simp [hlanded]
    | false =>
      simp only [hlanded, Bool.not_false, if_true]
      apply Contract.ensures_report_bind trivial
      simp

theorem ensures_refresh (hasEngine : Bool) (hrun : run ∈ known given history) :
    (moving given).Ensures Unrefused history (refresh hasEngine run).run := by
  rw [refresh]
  split
  · simp
  · next jobId _ =>
    split
    · simp
    · refine Contract.ensures_call_bind trivial (fun job => ?_) (fun failure hfailure => ?_)
      · refine Contract.ensures_ask_bind trivial fun now _ => ?_
        split
        · simp
        · next changed hchanged =>
          refine Contract.ensures_run_bind
            (ensures_save (mem_known_append (mem_known_append hrun _) _) (.observe hchanged))
            (fun history stored _ => ?_) (fun _ _ h => h)
          apply Contract.ensures_report_bind trivial
          simp
      · exact unrefused_error.mpr hfailure

theorem ensures_find (id : String) :
    (moving given).Ensures (fun history outcome => match outcome with
      | .ok run => history = [⟨.findRun id, some run⟩]
      | .error failure => failure.isRefusedMove = false) [] (find id).run := by
  refine Contract.ensures_ask_bind trivial fun found _ => ?_
  cases found with
  | none => simp [Failure.isRefusedMove]
  | some run => simp

theorem mem_known_of_found {id : String} (h : history = [⟨.findRun id, some run⟩]) :
    run ∈ known given history := by
  subst h
  simp [known, Exchange.runs]

theorem ensures_get (hasEngine : Bool) (id : String) (refreshed : Bool) :
    (moving given).Ensures Unrefused [] (get hasEngine id refreshed).run := by
  refine Contract.ensures_run_bind (ensures_find id) (fun history run hfound => ?_)
    (fun _ _ h => ?_)
  · split
    · simp
    · have hrefresh : (moving given).Ensures Unrefused history (refresh hasEngine run).run :=
        ensures_refresh hasEngine (mem_known_of_found hfound)
      refine Contract.ensures_lift_bind hrefresh fun history outcome houtcome => ?_
      cases outcome with
      | ok changed => simp
      | error failure =>
        cases failure with
        | engine fault =>
          apply Contract.ensures_report_bind trivial
          simp
        | _ => exact houtcome
  · exact unrefused_error.mpr h

theorem ensures_cancelled (hrun : run ∈ known given history)
    (hactive : run.status.isTerminal = false) (id : String) :
    (moving given).Ensures Unrefused history (do
      let now : Time ← Procedure.ask .readClock
      let cancelled ← run.cancel now
      let stored ← save cancelled
      Procedure.report .info component "Run cancelled" [] (some id)
      return stored : Procedure Run).run := by
  refine Contract.ensures_ask_bind trivial fun (now : Time) _ => ?_
  have hcancel := Run.cancel_of_active hactive now
  have hlift : (liftM (run.cancel now) : Procedure Run) =
      pure { run with status := .cancelled, completedAt := some now } := by
    rw [hcancel]
    rfl
  rw [hlift, pure_bind]
  have hsave := ensures_save (mem_known_append hrun [⟨.readClock, now⟩]) (.cancel hcancel)
  refine Contract.ensures_run_bind hsave (fun history stored _ => ?_) (fun _ _ h => h)
  exact Contract.ensures_report_bind trivial (by simp)

theorem ensures_cancel (hasEngine : Bool) (id : String) :
    (moving given).Ensures (fun history outcome => ∀ failure, outcome = .error failure →
      failure.isRefusedMove = true → ∃ run, run.status.isTerminal = true ∧
        history = [⟨.findRun id, some run⟩])
      [] (cancel hasEngine id).run := by
  refine Contract.ensures_run_bind (ensures_find id) (fun history run hfound => ?_)
    (fun _ _ h => ?_)
  · by_cases hterminal : run.status.isTerminal = true
    · simp only [hterminal, if_true]
      intro failure hfailure _
      exact ⟨run, hterminal, hfound⟩
    · have hactive : run.status.isTerminal = false := by simpa using hterminal
      have hrun : run ∈ known given history := mem_known_of_found hfound
      -- nothing that follows is refused, so the history of a refusal need not be known
      have hunrefused : ∀ {routine : Routine (Except Failure Run)},
          (moving given).Ensures Unrefused history routine →
          (moving given).Ensures (fun history outcome => ∀ failure, outcome = .error failure →
            failure.isRefusedMove = true → ∃ run, run.status.isTerminal = true ∧
              history = [⟨.findRun id, some run⟩]) history routine :=
        fun h => h.imp fun _ _ hun failure hfailure hrefused =>
          absurd hrefused (by simp [hun failure hfailure])
      apply hunrefused
      simp only [hactive, Bool.false_eq_true, if_false]
      split
      · refine Contract.ensures_tryCall_bind trivial (fun reply outcome _ _ => ?_)
          (fun _ h => unrefused_error.mpr h)
        have hrun := mem_known_append hrun [⟨_, reply⟩]
        cases outcome with
        | ok _ => exact ensures_cancelled hrun hactive id
        | error fault =>
          exact Contract.ensures_report_bind trivial
            (ensures_cancelled (mem_known_append hrun _) hactive id)
      · exact ensures_cancelled hrun hactive id
  · intro failure hfailure hrefused
    cases hfailure
    exact absurd hrefused (by simp [h])

end RunService

namespace Poller

variable {given : List Run} {history : List Exchange} {run : Run}

theorem ensures_store {changed : Run} (hrun : run ∈ known given history)
    (hchanged : run.Moves changed) :
    (moving given).Ensures RunService.Unrefused history (store changed).run := by
  refine Contract.ensures_run_bind (RunService.ensures_save hrun hchanged)
    (fun history stored _ => ?_) (fun _ _ h => ?_)
  · split
    · exact Contract.ensures_report_bind trivial (by simp)
    · simp
  · exact RunService.unrefused_error.mpr (RunService.unrefused_error.mp h)

theorem ensures_poll (hrun : run ∈ known given history) (jobId : String) :
    (moving given).Ensures RunService.Unrefused history (poll run jobId).run := by
  refine Contract.ensures_call_bind trivial (fun job => ?_) (fun failure hfailure => ?_)
  · refine Contract.ensures_ask_bind trivial fun now _ => ?_
    split
    · simp
    · next changed hchanged =>
      exact ensures_store (mem_known_append (mem_known_append hrun _) _) (.observe hchanged)
  · exact RunService.unrefused_error.mpr hfailure

abbrev Keeps {α : Type} (history : List Exchange) (routine : Routine α) : Prop :=
  (moving []).Ensures (fun _ _ => True) history routine

theorem keeps_pollSafely (hrun : run ∈ known [] history) : Keeps history (pollSafely run) := by
  rw [pollSafely]
  split
  · exact trivial
  · next jobId _ =>
    refine Contract.ensures_bind.mpr ((ensures_poll hrun jobId).imp fun history outcome _ => ?_)
    cases outcome with
    | ok changed => exact trivial
    | error failure => exact Contract.ensures_send_bind trivial fun _ _ => trivial

theorem keeps_pollAll {runs : List Run} (hruns : ∀ run ∈ runs, run ∈ known [] history) :
    Keeps history (pollAll runs) := by
  induction runs generalizing history with
  | nil => exact trivial
  | cons run rest ih =>
    have hfirst := (keeps_pollSafely (hruns run List.mem_cons_self)).extends
    refine Contract.ensures_bind.mpr (hfirst.imp fun later changed hlater => ?_)
    obtain ⟨-, more, rfl⟩ := hlater
    have hrest := ih fun run hrun => mem_known_append (hruns run (.tail _ hrun)) more
    exact Contract.ensures_bind.mpr (hrest.imp fun _ _ _ => trivial)

theorem keeps_work : Keeps history work := by
  refine Contract.ensures_send_bind trivial fun answer _ => ?_
  split
  · apply keeps_pollAll
    simp +contextual [known, Exchange.runs]
  · exact Contract.ensures_send_bind trivial fun _ _ => trivial

theorem keeps_tick : Keeps history tick := by
  refine Contract.ensures_send_bind trivial fun free _ => ?_
  split
  · exact trivial
  · refine Contract.ensures_bind.mpr (keeps_work.imp fun history changed _ => ?_)
    exact Contract.ensures_send_bind trivial fun _ _ => trivial

end Poller

end Flowplan
