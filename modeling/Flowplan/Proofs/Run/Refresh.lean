import Flowplan.Proofs.Conduct
import Flowplan.Proofs.Engine.Reply
import Flowplan.Proofs.Store.Save
import Flowplan.Run.Service

namespace Flowplan

/-- A store alone with an engine: the same outcome comes back from every request. -/
def Store.facing (client : Http.Client) (workspace : String) (outcome : Http.Outcome) :
    Surroundings Action.Answer Store where
  answers store action answer store' := match action, answer with
    | .engine call, reply => reply = call.perform client workspace outcome ∧ store' = store
    | action, answer => store.Answers action answer store'
  others store store' := store' = store
  allowed _ _ := True

namespace RunService

variable {client : Http.Client} {workspace : String} {outcome : Http.Outcome}
  {store : Store} {run : Run} {id jobId : String} {α : Type}

abbrev Facing (client : Http.Client) (workspace : String) (outcome : Http.Outcome)
    (post : Store → α → Prop) (store : Store) (routine : Routine α) : Prop :=
  (Store.facing client workspace outcome).Secures post store routine

section Requests

variable {post : Store → Except Failure α → Prop}

theorem facing_ask_bind {action : Action} {next : action.Answer → Procedure α} :
    Facing client workspace outcome post store (Procedure.ask action >>= next).run ↔
      ∀ answer store', (Store.facing client workspace outcome).answers store action answer store' →
      Facing client workspace outcome post store' (next answer).run := by
  constructor
  · intro h answer store' hanswer
    exact (h store rfl).2 answer store' hanswer
  · rintro h _ rfl
    exact ⟨trivial, h⟩

theorem facing_find_bind {next : Run → Procedure α} (hfound : store.run? id = some run) :
    Facing client workspace outcome post store (find id >>= next).run ↔
      Facing client workspace outcome post store (next run).run := by
  rw [find, bind_assoc, facing_ask_bind]
  constructor
  · intro h
    have hnext := h _ _ (.findRun store id)
    rw [hfound] at hnext
    exact hnext
  · intro h found store' hanswer
    cases hanswer
    rw [hfound]
    exact h

theorem facing_call_bind {call : EngineCall} {next : call.Reply → Procedure α} :
    Facing client workspace outcome post store (Procedure.call call >>= next).run ↔
      match call.perform client workspace outcome with
      | .ok reply => Facing client workspace outcome post store (next reply).run
      | .error failure => post store (.error failure) := by
  constructor
  · intro h
    have hnext := (h store rfl).2 _ _ ⟨rfl, rfl⟩
    cases hreply : call.perform client workspace outcome with
    | ok reply => rwa [hreply] at hnext
    | error failure => rwa [hreply] at hnext
  · rintro h _ rfl
    refine ⟨trivial, ?_⟩
    rintro _ _ ⟨rfl, rfl⟩
    cases hreply : call.perform client workspace outcome with
    | ok reply => rwa [hreply] at h
    | error failure => rwa [hreply] at h

theorem facing_report_bind {level : Level} {component message : String} {data : Entries Json}
    {runId : Option String} {next : Unit → Procedure α} :
    Facing client workspace outcome post store
        (Procedure.report level component message data runId >>= next).run ↔
      Facing client workspace outcome post store (next ()).run := by
  constructor
  · intro h
    exact (h store rfl).2 () store (.report store _)
  · rintro h _ rfl
    refine ⟨trivial, ?_⟩
    rintro _ _ ⟨⟩
    exact h

end Requests

theorem facing_save_ok {copy : Run} (hfound : store.run? copy.id = some run) :
    Facing client workspace outcome (fun _ result => ∃ record, result = .ok record) store
      (save copy).run := by
  rw [save, facing_ask_bind]
  intro answer store' hanswer
  cases hanswer
  obtain ⟨written, hwritten⟩ : ∃ written, (store.saveRun copy).1 = some written := by
    rw [Store.saveRun, hfound]
    dsimp only
    split <;> simp
  rw [hwritten]
  dsimp only
  split
  · exact facing_report_bind.mpr ⟨_, rfl⟩
  · exact ⟨_, rfl⟩

section Refresh

variable {post : Store → Except Failure Run → Prop}

theorem refresh_idle (hidle : run.job? = none ∨ run.status.isTerminal = true) :
    refresh true run = pure run := by
  rw [refresh]
  cases hjob : run.job? with
  | none => rfl
  | some jobId =>
    have hterminal : run.status.isTerminal = true := by simpa [hjob] using hidle
    simp [hterminal]

theorem facing_refresh_unread {failure : Failure} (hjob : run.job? = some jobId)
    (hactive : run.status.isTerminal = false)
    (hunread : (EngineCall.getJob jobId).perform client workspace outcome = .error failure) :
    Facing client workspace outcome post store (refresh true run).run ↔
      post store (.error failure) := by
  simp only [refresh, hjob, hactive, Bool.not_true, Bool.or_self, Bool.false_eq_true, if_false]
  refine facing_call_bind.trans ?_
  rw [hunread]

theorem facing_refresh_read {job : Job} (hjob : run.job? = some jobId)
    (hactive : run.status.isTerminal = false)
    (hread : (EngineCall.getJob jobId).perform client workspace outcome = .ok job)
    (hfound : store.run? run.id = some run) :
    Facing client workspace outcome (fun _ result => ∃ record, result = .ok record) store
      (refresh true run).run := by
  simp only [refresh, hjob, hactive, Bool.not_true, Bool.or_self, Bool.false_eq_true, if_false]
  apply facing_call_bind.mpr
  rw [hread]
  apply facing_ask_bind.mpr
  intro now store' hanswer
  cases hanswer
  split
  · exact ⟨run, rfl⟩
  · next changed hchanged =>
    have hstored : store.run? changed.id = some run := by rwa [(Run.Moves.observe hchanged).id_eq]
    refine Surroundings.secures_run_bind (facing_save_ok hstored) (fun store' stored _ => ?_) ?_
    · exact facing_report_bind.mpr ⟨stored, rfl⟩
    · rintro store' failure ⟨record, hrecord⟩
      cases hrecord

end Refresh

/-- What is read of a run after a refresh: the run as it was, where the engine is at fault. -/
def fallBack (run : Run) : Except Failure Run → Except Failure Run
  | .ok refreshed => .ok refreshed
  | .error (.engine _) => .ok run
  | .error failure => .error failure

theorem facing_get {post : Store → Except Failure Run → Prop} (hfound : store.run? id = some run) :
    Facing client workspace outcome post store (get true id true).run ↔
      Facing client workspace outcome (fun store' result => post store' (fallBack run result)) store
        (refresh true run).run := by
  rw [get, facing_find_bind hfound]
  simp only [Bool.not_true, Bool.false_eq_true, if_false]
  rw [Facing, Surroundings.secures_lift_bind]
  have hsettled :
      (fun store' result => Facing client workspace outcome post store' (match result with
      | .ok run => pure run
      | .error (.engine fault) => do
        Procedure.report .error component "Failed to poll engine job"
          (faultData [("job_id", .ofText? run.jobId)] fault) (some id)
        return run
      | .error failure => throw failure : Procedure Run).run) =
      fun store' result => post store' (fallBack run result) := by
    funext store' result
    cases result with
    | ok refreshed => rfl
    | error failure =>
      cases failure with
      | engine fault => exact propext facing_report_bind
      | _ => rfl
  exact iff_of_eq
    (congrArg (fun post => Facing client workspace outcome post store (refresh true run).run)
      hsettled)

theorem facing_get_idle {post : Store → Except Failure Run → Prop}
    (hfound : store.run? id = some run) (hidle : run.job? = none ∨ run.status.isTerminal = true) :
    Facing client workspace outcome post store (get true id true).run ↔ post store (.ok run) := by
  rw [facing_get hfound, refresh_idle hidle]
  rfl

theorem facing_get_unread {post : Store → Except Failure Run → Prop} {failure : Failure}
    (hfound : store.run? id = some run) (hjob : run.job? = some jobId)
    (hactive : run.status.isTerminal = false)
    (hunread : (EngineCall.getJob jobId).perform client workspace outcome = .error failure) :
    Facing client workspace outcome post store (get true id true).run ↔
      post store (fallBack run (.error failure)) := by
  rw [facing_get hfound, facing_refresh_unread hjob hactive hunread]

theorem facing_get_read {job : Job} (hfound : store.run? id = some run)
    (hjob : run.job? = some jobId) (hactive : run.status.isTerminal = false)
    (hread : (EngineCall.getJob jobId).perform client workspace outcome = .ok job) :
    Facing client workspace outcome (fun _ result => ∃ record, result = .ok record) store
      (get true id true).run := by
  rw [facing_get hfound]
  have hstored : store.run? run.id = some run := by rwa [Store.id_of_run? hfound]
  apply (facing_refresh_read hjob hactive hread hstored).imp
  rintro store' _ ⟨record, rfl⟩
  exact ⟨record, rfl⟩

theorem fallBack_eq_ok_iff {failure : Failure} {record : Run} :
    fallBack run (.error failure) = .ok record ↔
      (∃ fault, failure = .engine fault) ∧ record = run := by
  cases failure <;> simp [fallBack, eq_comm]

theorem facing_get_ok_iff (hfound : store.run? id = some run) :
    Facing client workspace outcome (fun _ result => ∃ record, result = .ok record) store
        (get true id true).run ↔
      ∀ jobId, run.job? = some jobId → run.status.isTerminal = false →
        Contained ((EngineCall.getJob jobId).perform client workspace outcome) := by
  by_cases hidle : run.job? = none ∨ run.status.isTerminal = true
  · rw [facing_get_idle hfound hidle]
    refine iff_of_true ⟨run, rfl⟩ fun jobId hjob hactive => ?_
    simp [hjob, hactive] at hidle
  · obtain ⟨hjob, hactive⟩ := not_or.mp hidle
    obtain ⟨jobId, hjob⟩ := Option.ne_none_iff_exists'.mp hjob
    replace hactive : run.status.isTerminal = false := by simpa using hactive
    cases hperform : (EngineCall.getJob jobId).perform client workspace outcome with
    | ok job =>
      refine iff_of_true (facing_get_read hfound hjob hactive hperform) ?_
      intro other hother _
      obtain rfl : jobId = other := Option.some.inj (hjob.symm.trans hother)
      simp [hperform]
    | error failure =>
      rw [facing_get_unread hfound hjob hactive hperform]
      simp [fallBack_eq_ok_iff, hjob, hactive, hperform]

theorem facing_get_unchanged (hfound : store.run? id = some run)
    (hunread : ∀ jobId, run.job? = some jobId → ∀ job,
      (EngineCall.getJob jobId).perform client workspace outcome ≠ .ok job) :
    Facing client workspace outcome
      (fun store' result => store' = store ∧ ∀ record, result = .ok record → record = run) store
      (get true id true).run := by
  by_cases hidle : run.job? = none ∨ run.status.isTerminal = true
  · rw [facing_get_idle hfound hidle]
    simp
  · obtain ⟨hjob, hactive⟩ := not_or.mp hidle
    obtain ⟨jobId, hjob⟩ := Option.ne_none_iff_exists'.mp hjob
    cases hperform : (EngineCall.getJob jobId).perform client workspace outcome with
    | ok job => exact absurd hperform (hunread jobId hjob job)
    | error failure =>
      rw [facing_get_unread hfound hjob (by simpa using hactive) hperform]
      simp +contextual [fallBack_eq_ok_iff]

end RunService

open RunService

/-- Whatever comes back from the engine, a call returns or fails by a fault of the engine
exactly when its request can be sent and the outcome is understood; so a stored run is read
and refreshed exactly when that holds of its job, if there is one to be asked about. Where the
job is not read the store is left as it is. -/
theorem contained_iff (client : Http.Client) (workspace : String) (outcome : Http.PlainOutcome) :
    (∀ call : EngineCall, Contained (call.perform client workspace outcome) ↔
      ∃ request, call.request client workspace = .ok request ∧
        call.Understands (request.receive outcome)) ∧
    ∀ store id run, Store.run? store id = some run →
      (Facing client workspace outcome (fun _ result => ∃ record, result = .ok record) store
          (get true id true).run ↔
        ∀ jobId, run.job? = some jobId → run.status.isTerminal = false →
          Contained ((EngineCall.getJob jobId).perform client workspace outcome)) ∧
      ((∀ jobId, run.job? = some jobId → ∀ job,
          (EngineCall.getJob jobId).perform client workspace outcome ≠ .ok job) →
        Facing client workspace outcome
          (fun store' result => store' = store ∧ ∀ record, result = .ok record → record = run) store
          (get true id true).run) := by
  constructor
  · exact fun call => EngineCall.contained_perform_iff
  · intro store id run hfound
    exact ⟨facing_get_ok_iff hfound, facing_get_unchanged hfound⟩

def polledRun : Run := .queued "run" none .null (some "job") ⟨0⟩

def brokenGateway : Http.PlainOutcome := ⟨.ok badGateway, by rintro _ ⟨⟩; rfl⟩

def jobFailure : Http.Response := ⟨200, some "application/json",
  Text.utf8 "\x7b\"running\":false,\"success\":false,\"result\":\"\\ud83d\\ude00\"\x7d"⟩

def reportedFailure : Http.PlainOutcome := ⟨.ok jobFailure, by rintro _ ⟨⟩; decide +kernel⟩

def garbled : Http.Response := ⟨200, some "application/json", [0x6F, 0x6F, 0x70, 0x73]⟩

theorem contained_of_badGateway :
    Contained ((EngineCall.getJob "job").perform engineClient "main" brokenGateway) ∧
    Facing engineClient "main" brokenGateway (fun _ result => ∃ record, result = .ok record)
      { runs := [polledRun] } (get true "run" true).run ∧
    Facing engineClient "main" brokenGateway
      (fun store result => store = { runs := [polledRun] } ∧ ∀ record, result = .ok record →
        record = polledRun)
      { runs := [polledRun] } (get true "run" true).run ∧
    Facing engineClient "main" reportedFailure (fun _ result => ∃ record, result = .ok record)
      { runs := [polledRun] } (get true "run" true).run := by
  obtain ⟨hcalls, hruns⟩ := contained_iff engineClient "main" brokenGateway
  have hjob : Contained ((EngineCall.getJob "job").perform engineClient "main" brokenGateway) := by
    apply (hcalls (.getJob "job")).mpr
    exact ⟨_, rfl, .inr trivial, nofun⟩
  obtain ⟨hread, hunchanged⟩ := hruns { runs := [polledRun] } "run" polledRun rfl
  refine ⟨hjob, hread.mpr ?_, hunchanged ?_, ?_⟩
  · rintro jobId hjobId -
    cases hjobId
    exact hjob
  · rintro jobId hjobId job hperform
    cases hjobId
    cases hperform
  · obtain ⟨-, hfailed⟩ := contained_iff engineClient "main" reportedFailure
    refine (hfailed { runs := [polledRun] } "run" polledRun rfl).1.mpr ?_
    rintro jobId hjobId -
    cases hjobId
    have hanswered :
        ((EngineCall.getJob "job").perform engineClient "main" reportedFailure).isOk = true := by
      decide +kernel
    cases hperform : (EngineCall.getJob "job").perform engineClient "main" reportedFailure with
    | ok job => exact contained_ok job
    | error failure => simp [hperform, Except.isOk, Except.toBool] at hanswered

/-- A body that is no JSON is no fault of the engine, and the run
whose job it is to be is not read. -/
theorem not_contained_of_garbled :
    EngineSettings.connect ⟨"http://engine.test", "token", "main"⟩ = .ok engineClient ∧
    ¬Contained ((EngineCall.getFlow "f/x").perform engineClient "main" (.ok garbled)) ∧
    ¬Facing engineClient "main" (.ok garbled) (fun _ result => ∃ record, result = .ok record)
      { runs := [polledRun] } (get true "run" true).run := by
  have hflow : (EngineCall.getFlow "f/x").perform engineClient "main" (.ok garbled) =
      .error (.exchange (.notJson ⟨.value, 0, 1, 1⟩)) := rfl
  have hjob : (EngineCall.getJob "job").perform engineClient "main" (.ok garbled) =
      .error (.exchange (.notJson ⟨.value, 0, 1, 1⟩)) := rfl
  have hstored : Store.run? { runs := [polledRun] } "run" = some polledRun := rfl
  refine ⟨rfl, ?_, ?_⟩
  · simp [hflow]
  · rw [facing_get_unread hstored rfl rfl hjob]
    simp [fallBack]

end Flowplan
