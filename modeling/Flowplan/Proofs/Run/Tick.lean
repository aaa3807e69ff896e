import Flowplan.Proofs.Outage
import Flowplan.Proofs.Store.Save
import Flowplan.Run.Poller
import Mathlib.Data.List.Perm.Basic

namespace Flowplan

section

variable (outcome : String → Except Failure Job) (now : Time)

def Run.polled? (run : Run) : Option Run :=
  match run.job?.map outcome with
  | some (.ok job) => run.observe job now
  | _ => none

def Run.polled (run : Run) : Run := ((run.polled? outcome now).map (Store.overwrite run)).getD run

namespace Store

def polled (store : Store) : Store := { store with runs := store.runs.map (Run.polled outcome now) }

def afterPolls (store : Store) (runs : List Run) : Store :=
  { store with
    runs := store.runs.map fun run => if run ∈ runs then run.polled outcome now else run }

end Store

/-- A tick that nobody else disturbs: runs are listed, the engine says
something about each job, and time stands still. -/
def Poller.answer (listed : Except Failure (List Run)) :
    (action : Action) → Store × Bool → action.Answer × Store × Bool
  | .listActive, state => (listed, state)
  | .engine (.getJob id), state => (outcome id, state)
  | .readClock, state => (now, state)
  | .beginPoll, (store, polling) => (!polling, store, true)
  | .endPoll, (store, _) => ((), store, false)
  | action, (store, polling) =>
    let (answer, store) := store.respond action
    (answer, store, polling)

end

variable {outcome : String → Except Failure Job} {now : Time} {listed : Except Failure (List Run)}
  {store : Store} {run changed : Run}

namespace Run

theorem exists_observe_of_polled? (h : run.polled? outcome now = some changed) :
    ∃ job, run.observe job now = some changed := by
  rw [polled?] at h
  split at h
  · exact ⟨_, h⟩
  · cases h

@[simp] theorem polled_id (run : Run) : (run.polled outcome now).id = run.id := by
  rw [polled]
  cases run.polled? outcome now <;> rfl

theorem overwrite_of_observe {job : Job} (h : run.observe job now = some changed) :
    Store.overwrite run changed = { changed with result := Store.settle changed.result } := by
  rw [observe] at h
  grind [Store.overwrite]

theorem polled_of_ok {jobId : String} {job : Job} (hjob : run.job? = some jobId)
    (houtcome : outcome jobId = .ok job) : run.polled outcome now =
      (run.observe job now).elim run fun changed =>
        { changed with result := Store.settle changed.result } := by
  simp only [polled, polled?, hjob, Option.map_some, houtcome]
  cases h : run.observe job now with
  | none => rfl
  | some changed => exact overwrite_of_observe h

theorem polled_of_idle (h : run.status.isTerminal = true ∨ run.job? = none ∨
    ∃ jobId failure, run.job? = some jobId ∧ outcome jobId = .error failure) :
      run.polled outcome now = run := by
  have hnone : run.polled? outcome now = none := by
    rw [polled?]
    rcases h with hterminal | hjob | ⟨jobId, failure, hjob, houtcome⟩
    · split
      · exact observe_of_isTerminal hterminal ..
      · rfl
    · rw [hjob]
      rfl
    · rw [hjob, Option.map_some, houtcome]
  rw [polled, hnone]
  rfl

end Run

namespace Store

section Polls

variable {runs : List Run}

theorem afterPolls_of_polled? (hids : (store.runs.map Run.id).Nodup) (hrun : run ∈ store.runs)
    (h : run.polled? outcome now = some changed) :
    store.afterPolls outcome now [run] = (store.saveRun changed).2 := by
  obtain ⟨job, hobserve⟩ := Run.exists_observe_of_polled? h
  have hid : changed.id = run.id := (Run.Moves.observe hobserve).id_eq
  have hstored : store.run? changed.id = some run := by rw [hid, run?_of_mem hids hrun]
  rw [saveRun_of_active hstored (Run.isTerminal_of_observe hobserve), afterPolls]
  congr 1
  refine List.map_congr_left fun other hother => ?_
  by_cases heq : other = run
  · simp [heq, hid, Run.polled, h]
  · have hne : other.id ≠ changed.id :=
      fun h => heq (List.inj_on_of_nodup_map hids hother hrun (h.trans hid))
    simp [heq, hne]

theorem afterPolls_of_none (h : run.polled? outcome now = none) :
    store.afterPolls outcome now [run] = store := by
  have hmap : (store.runs.map fun other =>
      if other ∈ [run] then other.polled outcome now else other) = store.runs := by
    refine List.map_id'' (fun other => ?_) _
    by_cases heq : other = run
    · simp [heq, Run.polled, h]
    · simp [heq]
  rw [afterPolls, hmap]

@[simp] theorem afterPolls_nil (store : Store) : store.afterPolls outcome now [] = store := by
  simp [afterPolls]

@[simp] theorem map_id_afterPolls (store : Store) (runs : List Run) :
    (store.afterPolls outcome now runs).runs.map Run.id = store.runs.map Run.id := by
  rw [afterPolls, List.map_map]
  refine List.map_congr_left fun run _ => ?_
  simp only [Function.comp_apply]
  split <;> simp

theorem afterPolls_cons (hnew : run.id ∉ runs.map Run.id) :
    (store.afterPolls outcome now [run]).afterPolls outcome now runs =
      store.afterPolls outcome now (run :: runs) := by
  simp only [afterPolls, List.map_map]
  congr 1
  refine List.map_congr_left fun other _ => ?_
  by_cases heq : other = run
  · -- the run keeps its id, so that it is not polled once more
    have hpolled : run.polled outcome now ∉ runs := by
      intro h
      have hid := List.mem_map_of_mem (f := Run.id) h
      exact hnew (by rwa [Run.polled_id] at hid)
    simp [heq, hpolled]
  · simp [heq]

theorem run?_polled (store : Store) (id : String) :
    (store.polled outcome now).run? id = (store.run? id).map (Run.polled outcome now) := by
  have hid : (fun run : Run => run.id == id) ∘ Run.polled outcome now =
      fun run => run.id == id := by
    funext run
    simp
  simp only [run?, polled, List.find?_map, hid]

theorem afterPolls_of_perm (hruns : runs.Perm (store.runsIn RunStatus.active)) :
    store.afterPolls outcome now runs = store.polled outcome now := by
  rw [afterPolls, polled]
  congr 1
  refine List.map_congr_left fun run hrun => ?_
  split
  · rfl
  · next hother =>
    have hterminal : run.status.isTerminal = true := by
      rw [← Bool.not_eq_false, ← RunStatus.mem_active_iff]
      exact fun h => hother (hruns.mem_iff.mpr (List.mem_filter.mpr ⟨hrun, by simpa using h⟩))
    exact (Run.polled_of_idle (.inl hterminal)).symm

end Polls

structure Polled (outcome : String → Except Failure Job) (now : Time) (store store' : Store) :
    Prop where
  workflows : store'.workflows = store.workflows
  ids : store'.runs.map Run.id = store.runs.map Run.id
  observed : ∀ run ∈ store.runs, ∀ jobId job, run.job? = some jobId → outcome jobId = .ok job →
    store'.run? run.id = some ((run.observe job now).elim run fun changed =>
      { changed with result := settle changed.result })
  /-- The run is just as the observation makes it if the store keeps
  its result as it is, and only then. -/
  exactly : ∀ run ∈ store.runs, ∀ jobId job, run.job? = some jobId → outcome jobId = .ok job →
    (store'.run? run.id = some ((run.observe job now).getD run) ↔
      ∀ changed, run.observe job now = some changed → settle changed.result = changed.result)
  kept : ∀ run ∈ store.runs, (run.status.isTerminal = true ∨ run.job? = none ∨
    ∃ jobId failure, run.job? = some jobId ∧ outcome jobId = .error failure) →
      store'.run? run.id = some run

theorem polled_polled (hids : (store.runs.map Run.id).Nodup) :
    Polled outcome now store (store.polled outcome now) := by
  have hrun : ∀ run ∈ store.runs, (store.polled outcome now).run? run.id =
      some (run.polled outcome now) :=
    fun run hrun => by rw [run?_polled, run?_of_mem hids hrun, Option.map_some]
  refine ⟨rfl, ?ids, ?observed, ?exactly, ?kept⟩
  case ids => simp [polled, Function.comp_def]
  case observed =>
    intro run hmem jobId job hjob houtcome
    rw [hrun run hmem, Run.polled_of_ok hjob houtcome]
  case exactly =>
    intro run hmem jobId job hjob houtcome
    rw [hrun run hmem, Run.polled_of_ok hjob houtcome, Option.some_inj]
    cases run.observe job now with
    | none => simp
    | some changed =>
      simp only [Option.elim_some, Option.getD_some, Option.some_inj, forall_eq']
      exact ⟨fun h => congrArg Run.result h, fun h => by rw [h]⟩
  case kept =>
    intro run hmem hidle
    rw [hrun run hmem, Run.polled_of_idle hidle]

end Store

namespace Poller

open Procedure

section Requests

variable {α β : Type} {state : Store × Bool}

theorem run_bind (routine : Routine β) (next : β → Routine α) :
    (routine >>= next).run (answer outcome now listed) state =
      (next (routine.run (answer outcome now listed) state).1).run (answer outcome now listed)
        (routine.run (answer outcome now listed) state).2 :=
  Program.run_bind _ routine next state

theorem run_ask_bind {action : Action} {next : action.Answer → Procedure α} :
    (ask action >>= next).run.run (answer outcome now listed) state =
      (next (answer outcome now listed action state).1).run.run (answer outcome now listed)
        (answer outcome now listed action state).2 := rfl

theorem run_getJob_bind {jobId : String} {next : Job → Procedure α} :
    (call (.getJob jobId) >>= next).run.run (answer outcome now listed) state =
      match outcome jobId with
      | .ok job => (next job).run.run (answer outcome now listed) state
      | .error failure => (.error failure, state) := by
  change (ExceptT.bindCont next (outcome jobId)).run _ state = _
  cases outcome jobId <;> rfl

end Requests

theorem run_store {copy : Run} (hstored : store.run? copy.id = some run)
    (hactive : run.status.isTerminal = false) (polling : Bool) :
    (Poller.store copy).run.run (answer outcome now listed) (store, polling) =
      (.ok true, (store.saveRun copy).2, polling) := by
  have hanswer : answer outcome now listed (.saveRun copy) (store, polling) =
      (some ⟨Store.overwrite run copy, true⟩, (store.saveRun copy).2, polling) := by
    change ((store.saveRun copy).1, (store.saveRun copy).2, polling) = _
    rw [Store.saveRun_of_active hstored hactive]
  rw [Poller.store, RunService.save, bind_assoc, run_ask_bind, hanswer]
  simp only [Bool.not_true, Bool.false_eq_true, if_false, pure_bind]
  have hsame : ((Store.overwrite run copy).status == copy.status) = true :=
    beq_self_eq_true copy.status
  rw [if_pos hsame]
  rfl

theorem run_poll (hstored : store.run? run.id = some run) (jobId : String) (polling : Bool) :
    (poll run jobId).run.run (answer outcome now listed) (store, polling) = match outcome jobId with
      | .ok job => match run.observe job now with
        | some changed => (.ok true, (store.saveRun changed).2, polling)
        | none => (.ok false, store, polling)
      | .error failure => (.error failure, store, polling) := by
  refine run_getJob_bind.trans ?_
  split
  · next job _ =>
    refine run_ask_bind.trans ?_
    dsimp only [answer]
    cases hobserve : run.observe job now with
    | none => rfl
    | some changed =>
      have hmoves := Run.Moves.observe hobserve
      exact run_store (by rwa [hmoves.id_eq]) (Run.isTerminal_of_observe hobserve) polling
  · rfl

theorem run_pollSafely (hstored : store.run? run.id = some run) (polling : Bool) :
    (pollSafely run).run (answer outcome now listed) (store, polling) =
      match run.polled? outcome now with
      | some changed => (true, (store.saveRun changed).2, polling)
      | none => (false, store, polling) := by
  rw [pollSafely, Run.polled?]
  cases run.job? with
  | none => rfl
  | some jobId =>
    refine (run_bind ..).trans ?_
    rw [run_poll hstored]
    dsimp only [Option.map_some]
    cases outcome jobId with
    | error failure => rfl
    | ok job =>
      dsimp only
      cases run.observe job now <;> rfl

theorem run_pollAll {runs : List Run} (hids : (store.runs.map Run.id).Nodup)
    (hruns : ∀ run ∈ runs, run ∈ store.runs) (hnodup : (runs.map Run.id).Nodup) (polling : Bool) :
    (pollAll runs).run (answer outcome now listed) (store, polling) =
      (runs.countP fun run => (run.polled? outcome now).isSome, store.afterPolls outcome now runs,
        polling) := by
  induction runs generalizing store with
  | nil => rw [Store.afterPolls_nil]; rfl
  | cons run runs ih =>
    obtain ⟨hrun, hruns⟩ := List.forall_mem_cons.mp hruns
    obtain ⟨hnew, hnodup⟩ := List.nodup_cons.mp hnodup
    have hpoll : (pollSafely run).run (answer outcome now listed) (store, polling) =
        ((run.polled? outcome now).isSome, store.afterPolls outcome now [run], polling) := by
      rw [run_pollSafely (Store.run?_of_mem hids hrun)]
      cases h : run.polled? outcome now with
      | none => rw [Store.afterPolls_of_none h]; rfl
      | some changed => rw [Store.afterPolls_of_polled? hids hrun h]; rfl
    have hrest : ∀ other ∈ runs, other ∈ (store.afterPolls outcome now [run]).runs := by
      intro other hother
      have hne : other ≠ run := fun h => hnew (h ▸ List.mem_map_of_mem hother)
      exact List.mem_map.mpr ⟨other, hruns other hother, by simp [hne]⟩
    have hothers := ih (by rwa [Store.map_id_afterPolls]) hrest hnodup
    rw [Store.afterPolls_cons hnew] at hothers
    rw [pollAll, run_bind, hpoll, run_bind, hothers, List.countP_cons, Nat.add_comm]
    rfl

theorem run_tick (store : Store) : tick.run (answer outcome now listed) (store, false) =
    ((work.run (answer outcome now listed) (store, true)).1,
      (work.run (answer outcome now listed) (store, true)).2.1, false) := by
  change (work >>= fun changed => send .endPoll >>= fun _ => pure changed : Routine Nat).run
    _ (store, true) = _
  rw [run_bind]
  rfl

theorem run_tick_of_perm {runs : List Run} (hids : (store.runs.map Run.id).Nodup)
    (hruns : runs.Perm (store.runsIn RunStatus.active)) :
    tick.run (answer outcome now (.ok runs)) (store, false) =
      ((store.runsIn RunStatus.active).countP fun run => (run.polled? outcome now).isSome,
        store.polled outcome now, false) := by
  have hmem : ∀ run ∈ runs, run ∈ store.runs :=
    fun run hrun => (List.mem_filter.mp (hruns.mem_iff.mp hrun)).1
  have hnodup : (runs.map Run.id).Nodup :=
    (hruns.map Run.id).nodup_iff.mpr (hids.sublist (List.filter_sublist.map Run.id))
  have hwork : work.run (answer outcome now (.ok runs)) (store, true) =
      (pollAll runs).run (answer outcome now (.ok runs)) (store, true) := rfl
  rw [run_tick, hwork, run_pollAll hids hmem hnodup, Store.afterPolls_of_perm hruns,
    hruns.countP_eq]

/-- Every order of the runs gives the same store, in which each run depends on its own job alone;
and nothing happens when they cannot be listed. -/
theorem tick_polled (hids : (store.runs.map Run.id).Nodup) (outcome : String → Except Failure Job)
    (now : Time) : Store.Polled outcome now store (store.polled outcome now) ∧
      (∀ runs, runs.Perm (store.runsIn RunStatus.active) →
        tick.run (answer outcome now (.ok runs)) (store, false) =
          ((store.runsIn RunStatus.active).countP fun run => (run.polled? outcome now).isSome,
            store.polled outcome now, false)) ∧
      ∀ failure, tick.run (answer outcome now (.error failure)) (store, false) =
        (0, store, false) :=
  ⟨Store.polled_polled hids, fun _ hruns => run_tick_of_perm hids hruns, fun _ => run_tick store⟩

def since (id : String) (jobId : Option String) : Run := .queued id none .null jobId ⟨0⟩

def crowded : Store where
  runs :=
    [since "first" (some "built"), since "second" (some "lost"), since "third" none,
      since "fourth" (some "built")]

def partly (jobId : String) : Except Failure Job :=
  if jobId = "built" then .ok ⟨none, false, some true, .int 7, none, none, none, []⟩
  else .error (.crash "out of memory")

theorem tick_polled_crowded : (crowded.runs.map Run.id).Nodup ∧
    tick.run (answer partly ⟨5⟩ (.ok crowded.runs.reverse)) (crowded, false) =
      (2, { crowded with
        runs := [
          { since "first" (some "built") with
            status := .completed, result := .int 7, completedAt := some ⟨5⟩ },
          since "second" (some "lost"), since "third" none,
          { since "fourth" (some "built") with
            status := .completed, result := .int 7, completedAt := some ⟨5⟩ }] },
        false) := by
  have hids : (crowded.runs.map Run.id).Nodup := by decide
  obtain ⟨-, htick, -⟩ := tick_polled hids partly ⟨5⟩
  refine ⟨hids, (htick _ (List.reverse_perm _)).trans ?_⟩
  decide

def outsized : Job := ⟨none, false, some true, .int 12345678901234567890, none, none, none, []⟩

def lonely : Store where
  runs := [since "first" (some "built")]

theorem not_exactly_outsized :
    (tick.run (answer (fun _ => .ok outsized) ⟨5⟩ (.ok (lonely.runsIn RunStatus.active)))
      (lonely, false)).2.1.run? "first" ≠
      some (((since "first" (some "built")).observe outsized ⟨5⟩).getD
        (since "first" (some "built"))) := by
  have hids : (lonely.runs.map Run.id).Nodup := by decide
  rw [run_tick_of_perm hids (.refl _)]
  have hpolled : Store.Polled (fun _ => .ok outsized) ⟨5⟩ lonely _ := Store.polled_polled hids
  have hexactly := hpolled.exactly _ List.mem_cons_self "built" outsized rfl rfl
  refine mt hexactly.mp fun h => ?_
  have hresult := h _ rfl
  cases hresult

end Poller

end Flowplan
