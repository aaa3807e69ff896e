import Flowplan.Proofs.Run.Start

/-!
# Counted writes

A tick counts a write when the store keeps the status that was written. So it counts each of its
writes that lands; of those that are dropped it counts the ones that find the run completed or
failed just as they say, and a cancellation is always told apart.
-/

namespace Flowplan

namespace Exchange

def landed : Exchange → Bool
  | ⟨.saveRun _, some written⟩ => written.landed
  | _ => false

/-- A write that was dropped because the run was completed, or had failed, as the copy says. -/
def forestalled : Exchange → Bool
  | ⟨.saveRun copy, some written⟩ =>
    !written.landed && (copy.status == .completed || copy.status == .failed)
      && written.stored.status == copy.status
  | _ => false

end Exchange

def counted (history : List Exchange) : Nat :=
  history.countP Exchange.landed + history.countP Exchange.forestalled

/-- What a tick may expect of the answer to a write. No copy of a tick is cancelled. -/
def counting : Contract where
  may _ action := match action with
    | .saveRun copy => copy.status ≠ .cancelled
    | _ => True
  expects action answer := match action, answer with
    | .saveRun copy, some written =>
      if written.landed then written.stored.status = copy.status
      else written.stored.status.isTerminal = true
    | _, _ => True

theorem Run.ne_cancelled_of_observe {run changed : Run} {job : Job} {now : Time}
    (h : run.observe job now = some changed) : changed.status ≠ .cancelled := by
  rw [observe] at h
  grind

theorem counting_of_answers {action : Action} {answer : action.Answer} {store store' : Store}
    (h : store.Answers action answer store') : counting.expects action answer := by
  cases h with
  | saveRun copy =>
    rw [Store.saveRun]
    split
    · exact trivial
    · split
      · next hterminal => simpa [counting] using hterminal
      · simp [counting, Store.overwrite]
  | _ => exact trivial

section Counted

variable {history : List Exchange} {α : Type}

theorem counted_append (history : List Exchange) (exchange : Exchange) :
    counted (history ++ [exchange]) = counted history +
      ((if exchange.landed then 1 else 0) + if exchange.forestalled then 1 else 0) := by
  simp only [counted, List.countP_append, List.countP_singleton]
  omega

theorem counted_append_save {copy : Run} {written : Store.Written}
    (hcopy : copy.status ≠ .cancelled)
    (hexpects : counting.expects (.saveRun copy) (some written)) :
    counted (history ++ [⟨.saveRun copy, some written⟩]) =
      counted history + if written.stored.status == copy.status then 1 else 0 := by
  rw [counted_append, Exchange.landed, Exchange.forestalled]
  cases hlanded : written.landed with
  | true =>
    have hstatus : written.stored.status = copy.status := by
      simpa [counting, hlanded] using hexpects
    simp [hstatus]
  | false =>
    have hterminal : written.stored.status.isTerminal = true := by
      simpa [counting, hlanded] using hexpects
    by_cases hstatus : written.stored.status = copy.status
    · rw [hstatus] at hterminal
      cases hmoved : copy.status <;> simp_all [RunStatus.isTerminal]
    · simp [hstatus]

theorem counted_append_of_false {exchange : Exchange} (hlanded : exchange.landed = false)
    (hforestalled : exchange.forestalled = false) :
    counted (history ++ [exchange]) = counted history := by
  simp [counted_append, hlanded, hforestalled]

abbrev Totals (total : α → Nat) (history : List Exchange) (routine : Routine α) : Prop :=
  counting.Ensures (fun later value => counted later = total value) history routine

end Counted

namespace Poller

open Procedure RunService

variable {history : List Exchange} {n : Nat}

def total (n : Nat) : Except Failure Bool → Nat
  | .ok changed => n + if changed then 1 else 0
  | .error _ => n

theorem totals_save {copy : Run} (hcopy : copy.status ≠ .cancelled) (hn : counted history = n) :
    Totals (fun outcome => total n (outcome.map fun stored => stored.status == copy.status)) history
      (save copy).run := by
  refine Contract.ensures_ask_bind hcopy fun written hwritten => ?_
  cases written with
  | none => exact (counted_append_of_false rfl rfl).trans hn
  | some written =>
    have hcounted : counted (history ++ [⟨.saveRun copy, some written⟩]) =
        n + if written.stored.status == copy.status then 1 else 0 := by
      rw [counted_append_save hcopy hwritten, hn]
    cases hlanded : written.landed with
    | true =>
      simp only [hlanded, Bool.not_true, Bool.false_eq_true, if_false]
      exact hcounted
    | false =>
      simp only [hlanded, Bool.not_false, if_true]
      apply Contract.ensures_report_bind trivial
      exact (counted_append_of_false rfl rfl).trans hcounted

theorem totals_store {changed : Run} (hchanged : changed.status ≠ .cancelled)
    (hn : counted history = n) : Totals (total n) history (Poller.store changed).run := by
  refine Contract.ensures_run_bind (totals_save hchanged hn) (fun later stored hstored => ?_)
    (fun _ _ h => h)
  cases hsame : stored.status == changed.status with
  | true =>
    simp only [Except.map, total, hsame, if_true] at hstored ⊢
    exact Contract.ensures_report_bind trivial ((counted_append_of_false rfl rfl).trans hstored)
  | false => simpa [Except.map, total, hsame] using hstored

theorem totals_poll (run : Run) (jobId : String) (hn : counted history = n) :
    Totals (total n) history (poll run jobId).run := by
  refine Contract.ensures_call_bind trivial (fun job => ?_)
    (fun failure _ => (counted_append_of_false rfl rfl).trans hn)
  refine Contract.ensures_ask_bind trivial fun now _ => ?_
  have hread : counted (history ++ [⟨.engine (.getJob jobId), .ok job⟩] ++ [⟨.readClock, now⟩]) =
      n := (counted_append_of_false rfl rfl).trans ((counted_append_of_false rfl rfl).trans hn)
  split
  · exact hread
  · next changed hchanged => exact totals_store (Run.ne_cancelled_of_observe hchanged) hread

theorem totals_pollSafely (run : Run) (hn : counted history = n) :
    Totals (fun changed => n + if changed then 1 else 0) history (pollSafely run) := by
  rw [pollSafely]
  split
  · exact hn
  · next jobId _ =>
    refine Contract.ensures_bind.mpr
      ((totals_poll run jobId hn).imp fun later outcome houtcome => ?_)
    cases outcome with
    | ok changed => exact houtcome
    | error failure =>
      exact Contract.ensures_send_bind trivial fun _ _ =>
        (counted_append_of_false rfl rfl).trans houtcome

theorem totals_pollAll (runs : List Run) (hn : counted history = n) :
    Totals (n + ·) history (pollAll runs) := by
  induction runs generalizing history n with
  | nil => exact hn
  | cons run rest ih =>
    refine Contract.ensures_bind.mpr
      ((totals_pollSafely run hn).imp fun later changed hchanged => ?_)
    refine Contract.ensures_bind.mpr ((ih hchanged).imp fun last others hothers => ?_)
    exact hothers.trans (Nat.add_assoc _ _ _)

theorem totals_work (hn : counted history = 0) : Totals id history work := by
  refine Contract.ensures_send_bind trivial fun answer _ => ?_
  split
  · refine (totals_pollAll _ ((counted_append_of_false rfl rfl).trans hn)).imp
      fun later changed hchanged => ?_
    exact hchanged.trans (Nat.zero_add changed)
  · exact Contract.ensures_send_bind trivial fun _ _ =>
      (counted_append_of_false rfl rfl).trans ((counted_append_of_false rfl rfl).trans hn)

theorem totals_tick : Totals id [] tick := by
  refine Contract.ensures_send_bind trivial fun free _ => ?_
  split
  · exact rfl
  · refine Contract.ensures_bind.mpr ((totals_work rfl).imp fun later changed hchanged => ?_)
    exact Contract.ensures_send_bind trivial fun _ _ =>
      (counted_append_of_false rfl rfl).trans hchanged

end Poller

namespace RunCall

def unbound : Contract := ⟨fun _ _ => True, fun _ _ => True⟩

def tally : RunCall → Contract
  | .tick => counting
  | _ => unbound

def Tells (call : RunCall) (history : List Exchange) (outcome : Except Failure Result) : Prop :=
  call = .tick → ∀ n, outcome = .ok (.count n) → counted history = n

theorem ensures_of_true {α : Type} {post : List Exchange → α → Prop}
    (hpost : ∀ history value, post history value) (history : List Exchange) (routine : Routine α) :
    unbound.Ensures post history routine := by
  induction routine generalizing history with
  | done value => exact hpost history value
  | ask action next ih => exact ⟨trivial, fun answer _ => ih answer _⟩

theorem ensures_tells (call : RunCall) : call.tally.Ensures call.Tells [] call.routine := by
  cases call with
  | tick =>
    refine Contract.ensures_map.mpr
      (Poller.totals_tick.imp fun history changed hchanged _ n hn => ?_)
    cases hn
    exact hchanged
  | _ => exact ensures_of_true (fun _ _ h => nomatch h) _ _

end RunCall

namespace System

variable {store : Store} {s : RunSystem} {task : Task RunCall (Except Failure RunCall.Result)}
  {n : Nat}

theorem exists_forestalled :
    ∃ (s : RunSystem) (task : Task RunCall (Except Failure RunCall.Result)),
      Relation.ReflTransGen (Step RunCall.routine) ⟨{ runs := [pendingRun] }, []⟩ s ∧
      task ∈ s.tasks ∧
      task.call = .tick ∧ task.rest = .done (.ok (.count 1)) ∧
      task.history.countP Exchange.landed = 0 ∧ task.history.countP Exchange.forestalled = 1 := by
  let completed (now : Time) : Run :=
    { pendingRun with status := .completed, completedAt := some now }
  let store (run : Run) : Store := { runs := [run] }
  have hlisted : Store.Answers (store pendingRun) .listActive (.ok [pendingRun])
      (store pendingRun) := .listActive _
  have hread : Store.Answers (store pendingRun) (.findRun "run") (some pendingRun)
      (store pendingRun) := .findRun _ "run"
  have hended : ∀ run, Store.Answers (store run) (.engine (.getJob "job")) (.ok endedJob)
      (store run) := fun _ => .engine _ nofun
  have hlands : Store.Answers (store pendingRun) (.saveRun (completed ⟨4⟩))
      (some ⟨completed ⟨4⟩, true⟩) (store (completed ⟨4⟩)) := .saveRun _ _
  have hdropped : Store.Answers (store (completed ⟨4⟩)) (.saveRun (completed ⟨5⟩))
      (some ⟨completed ⟨4⟩, false⟩) (store (completed ⟨4⟩)) := .saveRun _ _
  have htick : Step RunCall.routine ⟨store pendingRun, []⟩ _ := .start _ [] .tick
  have hcalls := (Relation.ReflTransGen.single htick).tail (.start _ _ (.get true "run" true))
  have hlist := (hcalls.tail (.answer [] [_] (.beginPoll _ true))).tail (.answer [] [_] hlisted)
  have hother := (hlist.tail (.answer [_] [] hread)).tail (.answer [_] [] (hended _))
  have hsaved := (hother.tail (.answer [_] [] (.readClock _ ⟨4⟩))).tail (.answer [_] [] hlands)
  have hpolled := (hsaved.tail (.answer [] [_] (hended _))).tail (.answer [] [_] (.readClock _ ⟨5⟩))
  have hlost := hpolled.tail (.answer [] [_] hdropped)
  have hreported := (hlost.tail (.answer [] [_] (.report _ _))).tail (.answer [] [_] (.report _ _))
  exact ⟨_, _, hreported.tail (.answer [] [_] (.endPoll _)), List.mem_cons_self, rfl, rfl, rfl, rfl⟩

end System

end Flowplan
