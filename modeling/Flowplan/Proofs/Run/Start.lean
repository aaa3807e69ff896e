import Flowplan.Proofs.Run.Lifecycle

/-!
# Start times

A write replaces the start of an active run by that of a copy. A copy that was read before the run
started has none, so what decides is of which read a copy was made.
-/

namespace Flowplan

namespace Store

variable {store : Store} {run copy : Run} {id : String} {time : Time}

def Started (store : Store) (id : String) (time : Time) : Prop :=
  ∃ run, store.run? id = some run ∧ run.startedAt = some time

def Unstarted (store : Store) : Prop := ∀ id run, store.run? id = some run → run.status = .queued →
    run.startedAt = none

theorem started_iff (hfound : store.run? id = some run) :
    store.Started id time ↔ run.startedAt = some time := by
  simp [Started, hfound]

theorem started_saveRun_iff (hfound : store.run? copy.id = some run) :
    (store.saveRun copy).2.Started copy.id time ↔
      (if run.status.isTerminal then run.startedAt else copy.startedAt) = some time := by
  simp only [Started, run?_saveRun_self, hfound, Option.map_some, Option.some.injEq,
    exists_eq_left']
  split <;> simp [overwrite]

theorem started_saveRun_of_ne (h : id ≠ copy.id) :
    (store.saveRun copy).2.Started id time ↔ store.Started id time := by
  simp only [Started, run?_saveRun_of_ne h]

theorem Unstarted.saveRun (h : store.Unstarted) (hcopy : copy.status ≠ .queued) :
    (store.saveRun copy).2.Unstarted := by
  intro id run hfound hqueued
  by_cases hid : id = copy.id
  · subst hid
    rw [run?_saveRun_self, Option.map_eq_some_iff] at hfound
    obtain ⟨stored, hstored, heq⟩ := hfound
    split at heq
    · subst heq
      exact h _ stored hstored hqueued
    · subst heq
      exact absurd hqueued hcopy
  · rw [run?_saveRun_of_ne hid] at hfound
    exact h id run hfound hqueued

end Store

abbrev RunSystem := System RunCall (Except Failure RunCall.Result)

namespace System

variable {store : Store} {s t : RunSystem} {read copy run : Run} {id : String} {time : Time}

inductive Writes : RunSystem → RunSystem → Run → Run → Prop
  | write {store call history read copy} {next : Option Store.Written →
      Routine (Except Failure RunCall.Result)}
    (before after) : read ∈ known (RunCall.given call) history → read.Moves copy →
    Writes ⟨store, before ++ ⟨call, history, .ask (.saveRun copy) next⟩ :: after⟩
      ⟨(store.saveRun copy).2, before
        ++ ⟨call, history ++ [⟨.saveRun copy, (store.saveRun copy).1⟩],
          next (store.saveRun copy).1⟩ :: after⟩ read copy

/-- A step in which no stale copy lands: where the stored run is active, the copy was made of
one with the same status and the same start. -/
def CurrentStep (s t : RunSystem) : Prop :=
  Step RunCall.routine s t ∧ ∀ read copy stored, Writes s t read copy →
    s.store.run? copy.id = some stored →
    stored.status.isTerminal = false → read.status = stored.status ∧
      read.startedAt = stored.startedAt

theorem Writes.moves (h : Writes s t read copy) : read.Moves copy := by
  cases h with
  | write _ _ _ hmoves => exact hmoves

theorem Writes.store_eq (h : Writes s t read copy) : t.store = (s.store.saveRun copy).2 := by
  cases h with
  | write => rfl

theorem Writes.started_iff (h : Writes s t read copy) (hfound : s.store.run? copy.id = some run)
    (hstarted : run.startedAt = some time) :
    t.store.Started copy.id time ↔ run.status.isTerminal = true ∨
      if copy.status = .running then copy.startedAt = some time else read.startedAt =
        some time := by
  rw [h.store_eq, Store.started_saveRun_iff hfound]
  cases hterminal : run.status.isTerminal with
  | true => simp [hstarted]
  | false =>
    by_cases hrunning : copy.status = .running
    · simp [hrunning]
    · simp [hrunning, h.moves.startedAt.resolve_left hrunning]

end System

abbrev RunCalls.Kept (s : RunSystem) : Prop :=
  Contract.KeptBy (fun call : RunCall => moving call.given) RunCall.Refuses s

namespace System

variable {store : Store} {s t : RunSystem} {read copy run : Run} {id : String} {time : Time}

theorem kept_of_steps (hrun : Relation.ReflTransGen (Step RunCall.routine) ⟨store, []⟩ s) :
    RunCalls.Kept s :=
  Contract.KeptBy.run (fun _ _ _ _ _ => expects_of_answers) RunCall.ensures_refuses
    (fun _ h => absurd h List.not_mem_nil) hrun

theorem writes_of_step (hkept : RunCalls.Kept s) (hstep : Step RunCall.routine s t) :
    t.store = s.store ∨ ∃ read copy, Writes s t read copy := by
  cases hstep with
  | start store tasks call => exact .inl rfl
  | @answer store store' call history action answer next before after hanswer =>
    have hmay := (hkept ⟨call, history, .ask action next⟩ (by simp)).1
    cases hanswer with
    | saveRun copy =>
      obtain ⟨read, hread, hmoves⟩ := hmay
      exact .inr ⟨read, _, .write before after hread hmoves⟩
    | insertWorkflow | refuseInsert | updateWorkflow | refuseUpdate | insertRun => cases hmay
    | _ => exact .inl rfl

theorem started_iff_of_step (hkept : RunCalls.Kept s) (hstep : Step RunCall.routine s t)
    (hfound : s.store.run? id = some run) (hstarted : run.startedAt = some time) :
    t.store.Started id time ↔ ∀ read copy, Writes s t read copy → copy.id = id →
      run.status.isTerminal = true ∨
      if copy.status = .running then copy.startedAt = some time else read.startedAt =
        some time := by
  constructor
  · rintro hkeeps read copy hwrites rfl
    exact (hwrites.started_iff hfound hstarted).mp hkeeps
  · intro hkeeps
    have hbefore : s.store.Started id time := ⟨run, hfound, hstarted⟩
    rcases writes_of_step hkept hstep with hsame | ⟨read, copy, hwrites⟩
    · exact hsame ▸ hbefore
    · by_cases hid : copy.id = id
      · have hwritten := hkeeps read copy hwrites hid
        subst hid
        exact (hwrites.started_iff hfound hstarted).mpr hwritten
      · rw [hwrites.store_eq, Store.started_saveRun_of_ne (Ne.symm hid)]
        exact hbefore

theorem unstarted_of_step (hkept : RunCalls.Kept s) (hstep : Step RunCall.routine s t)
    (h : s.store.Unstarted) : t.store.Unstarted := by
  rcases writes_of_step hkept hstep with hsame | ⟨read, copy, hwrites⟩
  · exact hsame ▸ h
  · exact hwrites.store_eq ▸ h.saveRun hwrites.moves.ne_queued

theorem unstarted_of_steps (hrun : Relation.ReflTransGen (Step RunCall.routine) ⟨store, []⟩ s)
    (h : store.Unstarted) : s.store.Unstarted := by
  induction hrun with
  | refl => exact h
  | tail hbefore hstep ih => exact unstarted_of_step (kept_of_steps hbefore) hstep ih

theorem started_of_currentStep (hkept : RunCalls.Kept s) (hunstarted : s.store.Unstarted)
    (hstep : CurrentStep s t) (h : s.store.Started id time) : t.store.Started id time := by
  obtain ⟨run, hfound, hstarted⟩ := h
  apply (started_iff_of_step hkept hstep.1 hfound hstarted).mpr
  rintro read copy hwrites rfl
  cases hterminal : run.status.isTerminal with
  | true => exact .inl rfl
  | false =>
    obtain ⟨hstatus, hstart⟩ := hstep.2 read copy run hwrites hfound hterminal
    have hqueued : run.status ≠ .queued :=
      fun hqueued => by simp [hunstarted _ _ hfound hqueued] at hstarted
    have hrunning : read.status = .running := by
      rw [hstatus]
      cases hrun : run.status <;> simp_all [RunStatus.isTerminal]
    have hmoved : copy.status ≠ .running := by
      have hmove := hwrites.moves.canBecome
      rw [hrunning] at hmove
      intro hcopy
      rw [hcopy] at hmove
      cases hmove
    simp [hmoved, hstart, hstarted]

theorem started_of_currentSteps (hrun : Relation.ReflTransGen (Step RunCall.routine) ⟨store, []⟩ s)
    (hunstarted : store.Unstarted) (h : s.store.Started id time)
    (hlater : Relation.ReflTransGen CurrentStep s t) : t.store.Started id time := by
  induction hlater with
  | refl => exact h
  | tail hbefore hstep ih =>
    have hrun := hrun.trans (hbefore.lift (fun s => s) fun _ _ hstep => hstep.1)
    exact started_of_currentStep (kept_of_steps hrun) (unstarted_of_steps hrun hunstarted) hstep ih

/-- However calls that follow, cancel and poll runs are interleaved, a step keeps the start of a
stored run exactly when each write of the run finds it finished, starts it at the same time, or was
made of a copy with that start. So it is kept for good where no stale copy lands. -/
theorem start_kept_iff (hrun : Relation.ReflTransGen (Step RunCall.routine) ⟨store, []⟩ s)
    (hfound : s.store.run? id = some run) (hstarted : run.startedAt = some time) :
    (∀ t, Step RunCall.routine s t → (t.store.Started id time ↔
      ∀ read copy, Writes s t read copy → copy.id = id → run.status.isTerminal = true ∨
        if copy.status = .running then copy.startedAt = some time
        else read.startedAt = some time)) ∧
    (store.Unstarted → ∀ t, Relation.ReflTransGen CurrentStep s t → t.store.Started id time) := by
  constructor
  · intro t hstep
    exact started_iff_of_step (kept_of_steps hrun) hstep hfound hstarted
  · intro hunstarted t hlater
    exact started_of_currentSteps hrun hunstarted ⟨run, hfound, hstarted⟩ hlater

def workingJob : Job := ⟨some "job", true, none, .null, none, none, none, []⟩

def startedRun : Run := { pendingRun with status := .running, startedAt := some ⟨3⟩ }

theorem run_of_overtaken : ∃ s : RunSystem,
    Relation.ReflTransGen (Step RunCall.routine) ⟨{ runs := [pendingRun] }, []⟩ s ∧
    s.store.run? "run" = some startedRun ∧
    ∃ t, Relation.ReflTransGen (Step RunCall.routine) s t ∧
      t.store.run? "run" =
        some { pendingRun with status := .completed, completedAt := some ⟨4⟩ } := by
  let store (run : Run) : Store := { runs := [run] }
  have hread : Store.Answers (store pendingRun) (.findRun "run") (some pendingRun)
      (store pendingRun) := .findRun _ "run"
  have hworks : Store.Answers (store pendingRun) (.engine (.getJob "job")) (.ok workingJob)
      (store pendingRun) := .engine _ nofun
  have hstarts : Store.Answers (store pendingRun) (.saveRun startedRun) (some ⟨startedRun, true⟩)
      (store startedRun) := .saveRun _ startedRun
  have hends : Store.Answers (store startedRun) (.engine (.getJob "job")) (.ok endedJob)
      (store startedRun) := .engine _ nofun
  have hfirst : Step RunCall.routine ⟨store pendingRun, []⟩ _ := .start _ [] (.get true "run" true)
  have hsecond := (Relation.ReflTransGen.single hfirst).tail (.start _ _ (.get true "run" true))
  have hreads := (hsecond.tail (.answer [] [_] hread)).tail (.answer [_] [] hread)
  have hclock := (hreads.tail (.answer [] [_] hworks)).tail (.answer [] [_] (.readClock _ ⟨3⟩))
  have hsaved := hclock.tail (.answer [] [_] hstarts)
  refine ⟨_, hsaved, rfl, ?_⟩
  apply Exists.intro
  constructor
  · exact ((Relation.ReflTransGen.single (.answer [_] [] hends)).tail
      (.answer [_] [] (.readClock _ ⟨4⟩))).tail (.answer [_] [] (.saveRun _ _))
  · rfl

theorem start_kept_of_overtaken : ∃ s : RunSystem,
    Relation.ReflTransGen (Step RunCall.routine) ⟨{ runs := [pendingRun] }, []⟩ s ∧
    s.store.run? "run" = some startedRun ∧
    (∀ t, Step RunCall.routine s t → (t.store.Started "run" ⟨3⟩ ↔
      ∀ read copy, Writes s t read copy → copy.id = "run" → startedRun.status.isTerminal = true ∨
        if copy.status = .running then copy.startedAt = some ⟨3⟩ else read.startedAt = some ⟨3⟩)) ∧
    ∀ t, Relation.ReflTransGen CurrentStep s t → t.store.Started "run" ⟨3⟩ := by
  obtain ⟨s, hrun, hfound, -⟩ := run_of_overtaken
  have hkept := start_kept_iff hrun hfound rfl
  refine ⟨s, hrun, hfound, hkept.1, hkept.2 ?_⟩
  intro id run hpending _
  obtain rfl : pendingRun = run :=
    List.mem_singleton.mp (List.mem_of_find?_eq_some hpending) |>.symm
  rfl

/-- A run is read by two calls. One of them starts it; the other one
ends it, and the start is lost. -/
theorem start_lost : ∃ s t : RunSystem,
    Relation.ReflTransGen (Step RunCall.routine) ⟨{ runs := [pendingRun] }, []⟩ s ∧
    Relation.ReflTransGen (Step RunCall.routine) s t ∧ s.store.Started "run" ⟨3⟩ ∧
    ∃ run, t.store.run? "run" = some run ∧ run.startedAt = none := by
  obtain ⟨s, hrun, hfound, t, hlater, hended⟩ := run_of_overtaken
  exact ⟨s, t, hrun, hlater, ⟨startedRun, hfound, rfl⟩, _, hended, rfl⟩

end System

end Flowplan
