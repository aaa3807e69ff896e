import Flowplan.Proofs.Conduct
import Flowplan.Proofs.Run.Lifecycle

/-!
# Well-formed runs

A run has the times, the result and the error that its status demands. Calls work on copies that
may be out of date; as each copy was well formed when it was read, whatever is written is so too.
-/

namespace Flowplan

namespace Run

structure WellFormed (run : Run) : Prop where
  finished : run.completedAt.isSome = run.status.isTerminal
  queued : run.status = .queued → run.startedAt = none ∧ run.result = .null ∧ run.error = none
  running : run.status = .running → run.startedAt.isSome = true ∧ run.result = .null ∧
    run.error = none
  completed : run.status = .completed → run.error = none
  failed : run.status = .failed → run.result = .null ∧ run.error.isSome = true
  cancelled : run.status = .cancelled → run.result = .null ∧ run.error = none
  ordered : ∀ started ∈ run.startedAt, ∀ completed ∈ run.completedAt, started.seconds ≤
    completed.seconds

structure Timely (clock : Time) (run : Run) : Prop where
  wellFormed : run.WellFormed
  started : ∀ started ∈ run.startedAt, started.seconds ≤ clock.seconds

variable {run changed copy : Run} {clock now : Time}

theorem Timely.later (h : run.Timely clock) (hnow : clock.seconds ≤ now.seconds) : run.Timely now :=
  ⟨h.wellFormed, fun started hstarted => Nat.le_trans (h.started started hstarted) hnow⟩

theorem timely_queued (id : String) (workflowId : Option String) (inputs : Json)
    (jobId : Option String) : (queued id workflowId inputs jobId now).Timely clock := by
  refine ⟨⟨rfl, fun _ => ⟨rfl, rfl, rfl⟩, ?_, ?_, ?_, ?_, ?_⟩, ?_⟩ <;> simp [queued]

theorem Timely.active (h : run.Timely clock) (hactive : run.status.isTerminal = false) :
    run.result = .null ∧ run.error = none := by
  cases hstatus : run.status with
  | queued => exact (h.wellFormed.queued hstatus).2
  | running => exact (h.wellFormed.running hstatus).2
  | _ => simp [hstatus, RunStatus.isTerminal] at hactive

theorem Timely.complete (h : run.Timely clock) (hnow : clock.seconds ≤ now.seconds)
    (result : Json) :
    ({ run with
      status := .completed, result := result, error := none, completedAt := some now } :
      Run).Timely now := by
  have hstarted : ∀ started ∈ run.startedAt, started.seconds ≤ now.seconds := (h.later hnow).started
  exact ⟨⟨rfl, nofun, nofun, fun _ => rfl, nofun, nofun, by simpa using hstarted⟩, hstarted⟩

theorem Timely.fail (h : run.Timely clock) (hnow : clock.seconds ≤ now.seconds) (error : String) :
    ({ run with
      status := .failed, result := .null, error := some error, completedAt :=
        some now } : Run).Timely now := by
  have hstarted : ∀ started ∈ run.startedAt, started.seconds ≤ now.seconds := (h.later hnow).started
  exact ⟨⟨rfl, nofun, nofun, nofun, fun _ => ⟨rfl, rfl⟩, nofun, by simpa using hstarted⟩, hstarted⟩

theorem Timely.start (h : run.Timely clock) (hactive : run.status.isTerminal = false) :
    ({ run with status := .running, startedAt := some now } : Run).Timely now := by
  have hopen : run.completedAt.isSome = false := h.wellFormed.finished.trans hactive
  have hordered : ∀ completed ∈ run.completedAt, now.seconds ≤ completed.seconds := by
    intro completed hcompleted
    rw [hcompleted] at hopen
    cases hopen
  exact ⟨⟨hopen, nofun, fun _ => ⟨rfl, h.active hactive⟩, nofun, nofun,
      nofun, by simpa using hordered⟩, by simp⟩

theorem Timely.observe {job : Job} (h : run.Timely clock) (hnow : clock.seconds ≤ now.seconds)
    (hchanged : run.observe job now = some changed) : changed.Timely now := by
  rw [Run.observe] at hchanged
  split at hchanged
  · cases hchanged
  · next hactive =>
    split at hchanged
    · split at hchanged <;> cases hchanged
      · exact h.complete hnow _
      · exact h.fail hnow _
    · split at hchanged <;> cases hchanged
      exact h.start (Bool.eq_false_iff.mpr hactive)

theorem Timely.cancel (h : run.Timely clock) (hactive : run.status.isTerminal = false)
    (hnow : clock.seconds ≤ now.seconds) :
    ({ run with status := .cancelled, completedAt := some now } : Run).Timely now := by
  have hstarted : ∀ started ∈ run.startedAt, started.seconds ≤ now.seconds := (h.later hnow).started
  exact ⟨⟨rfl, nofun, nofun, nofun, nofun, fun _ => h.active hactive, by simpa using hstarted⟩,
    hstarted⟩

theorem Timely.overwrite (h : copy.Timely clock) (stored : Run) :
    (Store.overwrite stored copy).Timely clock := by
  have hsettled : copy.result = .null → Store.settle copy.result = .null :=
    fun hresult => by rw [hresult]; rfl
  obtain ⟨⟨hfinished, hqueued, hrunning, hcompleted, hfailed, hcancelled, hordered⟩, hstarted⟩ := h
  refine ⟨⟨hfinished, fun hstatus => ?_, fun hstatus => ?_, hcompleted, fun hstatus => ?_,
      fun hstatus => ?_, hordered⟩, hstarted⟩
  · exact (hqueued hstatus).imp_right fun hrest => hrest.imp_left hsettled
  · exact (hrunning hstatus).imp_right fun hrest => hrest.imp_left hsettled
  · exact (hfailed hstatus).imp_left hsettled
  · exact (hcancelled hstatus).imp_left hsettled

end Run

def Action.Tells (clock : Time) : (action : Action) → action.Answer → Prop
  | .findRun _, found => ∀ run : Run, found = some run → run.Timely clock
  | .listActive, .ok runs => ∀ run ∈ runs, run.Timely clock
  | .readClock, now => now = clock
  | _, _ => True

def Action.IsTimely (clock : Time) : Action → Prop
  | .saveRun copy => copy.Timely clock
  | .insertWorkflow _ | .updateWorkflow .. => False
  | _ => True

def Store.punctual : Surroundings Action.Answer Time where
  answers clock action answer now := clock.seconds ≤ now.seconds ∧ action.Tells now answer
  others clock now := clock.seconds ≤ now.seconds
  allowed := Action.IsTimely

abbrev Punctual {α : Type} (clock : Time) (routine : Routine α) : Prop :=
  Store.punctual.Secures (fun _ _ => True) clock routine

section Punctual

variable {α β : Type} {clock now : Time} {run copy : Run}

theorem Punctual.later {routine : Routine α} (h : Punctual clock routine)
    (hnow : clock.seconds ≤ now.seconds) : Punctual now routine :=
  Surroundings.Secures.stable Nat.le_trans (fun _ _ => trivial) h hnow

theorem Punctual.elapses {routine : Routine α} (h : Punctual clock routine) :
    Store.punctual.Secures (fun now _ => clock.seconds ≤ now.seconds) clock routine := by
  induction routine generalizing clock with
  | done value => exact Nat.le_refl _
  | ask action next ih =>
    intro asked hasked
    refine ⟨(h asked hasked).1, fun answer now hanswer => ?_⟩
    exact (ih answer ((h asked hasked).2 answer now hanswer)).imp fun ended _ hended =>
      Nat.le_trans (Nat.le_trans hasked hanswer.1) hended

theorem punctual_send_bind {action : Action} {next : action.Answer → Routine β}
    (hallowed : ∀ now : Time, clock.seconds ≤ now.seconds → action.IsTimely now)
    (hnext : ∀ now answer, clock.seconds ≤ now.seconds → action.Tells now answer →
      Punctual now (next answer)) : Punctual clock (send action >>= next) :=
  fun asked hasked => ⟨hallowed asked hasked, fun answer now ⟨hnow, htells⟩ =>
    hnext now answer (Nat.le_trans hasked hnow) htells⟩

theorem punctual_bind {procedure : Procedure α} {next : α → Procedure β}
    (h : Punctual clock procedure.run) (hnext : ∀ now value, Punctual now (next value).run) :
    Punctual clock (procedure >>= next).run :=
  Surroundings.secures_run_bind h (fun now value _ => hnext now value) fun _ _ _ => trivial

theorem punctual_ask_bind {action : Action} {next : action.Answer → Procedure β}
    (hallowed : ∀ now : Time, clock.seconds ≤ now.seconds → action.IsTimely now)
    (hnext : ∀ now answer, clock.seconds ≤ now.seconds → action.Tells now answer →
      Punctual now (next answer).run) : Punctual clock (Procedure.ask action >>= next).run := by
  have hsend : Punctual clock (send action >>= fun answer => (next answer).run) :=
    punctual_send_bind hallowed hnext
  exact hsend

theorem punctual_report_bind {level : Level} {component message : String} {data : Entries Json}
    {runId : Option String} {next : Unit → Procedure β}
    (hnext : ∀ now, Punctual now (next ()).run) :
    Punctual clock (Procedure.report level component message data runId >>= next).run :=
  punctual_ask_bind (fun _ _ => trivial) fun now _ _ _ => hnext now

theorem punctual_call_bind {call : EngineCall} {next : call.Reply → Procedure β}
    (hnext : ∀ now reply, clock.seconds ≤ now.seconds → Punctual now (next reply).run) :
    Punctual clock (Procedure.call call >>= next).run := by
  intro asked hasked
  refine ⟨trivial, fun answer now ⟨hnow, _⟩ => ?_⟩
  cases answer with
  | ok reply => exact hnext now reply (Nat.le_trans hasked hnow)
  | error failure => exact trivial

theorem punctual_tryCall_bind {call : EngineCall}
    {next : Except EngineFault call.Reply → Procedure β}
    (hnext : ∀ now outcome, clock.seconds ≤ now.seconds → Punctual now (next outcome).run) :
    Punctual clock (Procedure.tryCall call >>= next).run := by
  intro asked hasked
  refine ⟨trivial, fun answer now ⟨hnow, _⟩ => ?_⟩
  have hnow' := Nat.le_trans hasked hnow
  cases answer with
  | ok reply => exact hnext now (.ok reply) hnow'
  | error failure =>
    cases failure with
    | engine fault => exact hnext now (.error fault) hnow'
    | _ => exact trivial

end Punctual

namespace RunService

variable {clock : Time} {run copy : Run}

theorem punctual_save (h : copy.Timely clock) : Punctual clock (save copy).run := by
  refine punctual_ask_bind (fun now hnow => h.later hnow) fun now written _ _ => ?_
  cases written with
  | none => exact trivial
  | some written =>
    dsimp only
    split
    · exact punctual_report_bind fun _ => trivial
    · exact trivial

theorem punctual_refresh (hasEngine : Bool) (h : run.Timely clock) :
    Punctual clock (refresh hasEngine run).run := by
  rw [refresh]
  split
  · exact trivial
  · split
    · exact trivial
    · refine punctual_call_bind fun asked job hasked => ?_
      refine punctual_ask_bind (fun _ _ => trivial) fun clock' now hnow htells => ?_
      obtain rfl : now = clock' := htells
      split
      · exact trivial
      · next changed hchanged =>
        refine punctual_bind (punctual_save (h.observe (Nat.le_trans hasked hnow) hchanged))
          fun _ stored => ?_
        exact punctual_report_bind fun _ => trivial

theorem secures_find (id : String) : Store.punctual.Secures
    (fun now outcome => ∀ run, outcome = .ok run → run.Timely now) clock (find id).run := by
  intro asked hasked
  refine ⟨trivial, fun found now ⟨hnow, htells⟩ => ?_⟩
  cases found with
  | none => exact fun _ hfailed => nomatch hfailed
  | some run => exact fun run' hrun => Except.ok.inj hrun ▸ htells run rfl

theorem punctual_get (hasEngine : Bool) (id : String) (refreshed : Bool) :
    Punctual clock (get hasEngine id refreshed).run := by
  refine Surroundings.secures_run_bind (secures_find id) (fun now run hrun => ?_) fun _ _ _ =>
    trivial
  split
  · exact trivial
  · rw [Surroundings.secures_lift_bind]
    refine (punctual_refresh hasEngine (hrun run rfl)).imp fun now outcome _ => ?_
    split
    · exact trivial
    · exact punctual_report_bind fun _ => trivial
    · exact trivial

theorem punctual_cancelled (h : run.Timely clock) (hactive : run.status.isTerminal = false)
    (id : String) : Punctual clock (do
      let now : Time ← Procedure.ask .readClock
      let cancelled ← run.cancel now
      let stored ← save cancelled
      Procedure.report .info component "Run cancelled" [] (some id)
      return stored : Procedure Run).run := by
  refine punctual_ask_bind (fun _ _ => trivial) fun clock' (now : Time) hnow htells => ?_
  obtain rfl : now = clock' := htells
  have hlift : (liftM (run.cancel now) : Procedure Run) =
      pure { run with status := .cancelled, completedAt := some now } := by
    rw [Run.cancel_of_active hactive]
    rfl
  rw [hlift, pure_bind]
  refine punctual_bind (punctual_save (h.cancel hactive hnow)) fun _ stored => ?_
  exact punctual_report_bind fun _ => trivial

theorem punctual_cancel (hasEngine : Bool) (id : String) :
    Punctual clock (cancel hasEngine id).run := by
  refine Surroundings.secures_run_bind (secures_find id) (fun now run hrun => ?_) fun _ _ _ =>
    trivial
  replace hrun := hrun run rfl
  cases hterminal : run.status.isTerminal with
  | true => exact trivial
  | false =>
    simp only [Bool.false_eq_true, if_false]
    split
    · refine punctual_tryCall_bind fun asked outcome hasked => ?_
      split
      · exact punctual_cancelled (hrun.later hasked) hterminal id
      · exact punctual_ask_bind (fun _ _ => trivial) fun _ _ hnow _ =>
          punctual_cancelled ((hrun.later hasked).later hnow) hterminal id
    · exact punctual_cancelled hrun hterminal id

theorem punctual_start (inputs : Entries Json) (path : String) :
    Punctual clock (create.start inputs path).run := by
  refine punctual_ask_bind (fun _ _ => trivial) fun now services _ _ => ?_
  refine punctual_tryCall_bind fun now outcome _ => ?_
  cases outcome with
  | ok jobId => exact trivial
  | error fault => exact punctual_report_bind fun _ => trivial

theorem punctual_create (hasEngine : Bool) (workflowId : String) (inputs : Entries Json) :
    Punctual clock (create hasEngine workflowId inputs).run := by
  refine punctual_ask_bind (fun _ _ => trivial) fun now found _ _ => ?_
  cases found with
  | none => exact trivial
  | some workflow =>
    have hinsert : ∀ (now : Time) (jobId : Option String), Punctual now (do
        let run : Run ← Procedure.ask (.insertRun (some workflow.id) (.obj inputs) jobId)
        Procedure.report .info component "Run created" [("job_id", .ofText? jobId)] (some run.id)
        return run : Procedure Run).run := fun now jobId =>
      punctual_ask_bind (fun _ _ => trivial) fun now run _ _ => punctual_report_bind fun _ =>
        trivial
    dsimp only
    split
    · exact trivial
    · split
      · rw [bind_map_left]
        exact punctual_bind (punctual_start inputs _) fun now jobId => hinsert now (some jobId)
      · exact punctual_bind (punctual_report_bind fun _ => trivial) hinsert

end RunService

namespace Poller

variable {clock : Time} {run changed : Run}

theorem punctual_store (h : changed.Timely clock) : Punctual clock (store changed).run := by
  refine punctual_bind (RunService.punctual_save h) fun now stored => ?_
  split
  · exact punctual_report_bind fun _ => trivial
  · exact trivial

theorem punctual_poll (h : run.Timely clock) (jobId : String) :
    Punctual clock (poll run jobId).run := by
  refine punctual_call_bind fun asked job hasked => ?_
  refine punctual_ask_bind (fun _ _ => trivial) fun clock' now hnow htells => ?_
  obtain rfl : now = clock' := htells
  split
  · exact trivial
  · next changed hchanged => exact punctual_store (h.observe (Nat.le_trans hasked hnow) hchanged)

theorem punctual_pollSafely (h : run.Timely clock) : Punctual clock (pollSafely run) := by
  rw [pollSafely]
  split
  · exact trivial
  · next jobId _ =>
    refine Surroundings.secures_bind.mpr ((punctual_poll h jobId).imp fun now outcome _ => ?_)
    cases outcome with
    | ok changed => exact trivial
    | error failure => exact punctual_send_bind (fun _ _ => trivial) fun _ _ _ _ => trivial

theorem punctual_pollAll {runs : List Run} (h : ∀ run ∈ runs, run.Timely clock) :
    Punctual clock (pollAll runs) := by
  induction runs generalizing clock with
  | nil => exact trivial
  | cons run runs ih =>
    have hfirst := punctual_pollSafely (h run List.mem_cons_self)
    refine Surroundings.secures_bind.mpr (hfirst.elapses.imp fun now changed hnow => ?_)
    have hrest : Punctual now (pollAll runs) := ih fun run hrun => (h run (.tail _ hrun)).later hnow
    exact Surroundings.secures_map.mpr hrest

theorem punctual_work : Punctual clock work := by
  refine punctual_send_bind (fun _ _ => trivial) fun now outcome _ htells => ?_
  cases outcome with
  | ok runs => exact punctual_pollAll htells
  | error failure => exact punctual_send_bind (fun _ _ => trivial) fun _ _ _ _ => trivial

theorem punctual_tick : Punctual clock tick := by
  refine punctual_send_bind (fun _ _ => trivial) fun now free _ _ => ?_
  split
  · exact trivial
  · refine Surroundings.secures_bind.mpr (punctual_work.imp fun now changed _ => ?_)
    exact punctual_send_bind (fun _ _ => trivial) fun _ _ _ _ => trivial

end Poller

end Flowplan
