import Flowplan.Proofs.Interleaving
import Mathlib.Data.List.Nodup

namespace Flowplan

namespace RunStatus

theorem ne_queued_of_canBecome {current target : RunStatus} (h : current.canBecome target = true) :
    target ≠ .queued := by
  rintro rfl
  cases current <;> cases h

theorem eq_or_canBecome {current target : RunStatus} (hactive : current.isTerminal = false)
    (htarget : target ≠ .queued) : target = current ∨ current.canBecome target = true := by
  cases current <;> cases target <;> simp_all [isTerminal, canBecome, successors]

end RunStatus

namespace Run

variable {run changed : Run}

theorem canBecome_of_observe {job : Job} {now : Time} (h : run.observe job now = some changed) :
    run.status.canBecome changed.status = true := by
  rw [observe] at h
  cases hstatus : run.status <;>
    grind [RunStatus.isTerminal, RunStatus.canBecome, RunStatus.successors]

theorem isTerminal_of_observe {job : Job} (h : run.observe job now = some changed) :
    run.status.isTerminal = false := by
  cases hterminal : run.status.isTerminal with
  | true => rw [observe_of_isTerminal hterminal] at h; cases h
  | false => rfl

theorem cancel_of_active (hactive : run.status.isTerminal = false) (now : Time) :
    run.cancel now = .ok { run with status := .cancelled, completedAt := some now } := by
  have hmove : run.status.canBecome .cancelled = true := by
    cases hstatus : run.status <;> simp_all [RunStatus.isTerminal] <;> rfl
  simp [cancel, moveTo, hmove, Except.map]

theorem eq_of_cancel {now : Time} (h : run.cancel now = .ok changed) :
    run.status.canBecome .cancelled = true ∧
    changed = { run with status := .cancelled, completedAt := some now } := by
  by_cases hmove : run.status.canBecome .cancelled = true
  · simp only [cancel, moveTo, hmove, if_true, Except.map, Except.ok.injEq] at h
    exact ⟨hmove, h.symm⟩
  · simp [cancel, moveTo, hmove, Except.map] at h

inductive Moves (run : Run) : Run → Prop
  | observe {job now changed} : run.observe job now = some changed → Moves run changed
  | cancel {now changed} : run.cancel now = .ok changed → Moves run changed

namespace Moves

theorem canBecome (h : run.Moves changed) : run.status.canBecome changed.status = true := by
  cases h with
  | observe h => exact canBecome_of_observe h
  | cancel h =>
    obtain ⟨hmove, rfl⟩ := eq_of_cancel h
    exact hmove

theorem id_eq (h : run.Moves changed) : changed.id = run.id := by
  cases h with
  | observe h =>
    rw [Run.observe] at h
    grind
  | cancel h =>
    obtain ⟨-, rfl⟩ := eq_of_cancel h
    rfl

theorem ne_queued (h : run.Moves changed) : changed.status ≠ .queued :=
  RunStatus.ne_queued_of_canBecome h.canBecome

theorem startedAt (h : run.Moves changed) :
    changed.status = .running ∨ changed.startedAt = run.startedAt := by
  cases h with
  | observe h =>
    rw [Run.observe] at h
    grind
  | cancel h =>
    obtain ⟨-, rfl⟩ := eq_of_cancel h
    exact .inr rfl

end Moves

end Run

namespace Store

variable {store store' : Store} {run copy : Run} {id : String}

@[simp] theorem overwrite_id (stored copy : Run) : (overwrite stored copy).id = stored.id := rfl

theorem id_of_run? (h : store.run? id = some run) : run.id = id := by
  simpa using List.find?_some h

theorem run?_of_mem (hids : (store.runs.map Run.id).Nodup) (hrun : run ∈ store.runs) :
    store.run? run.id = some run := by
  cases hfound : store.run? run.id with
  | none => exact absurd (beq_self_eq_true run.id) (List.find?_eq_none.mp hfound run hrun)
  | some other =>
    have hother : other ∈ store.runs := List.mem_of_find?_eq_some hfound
    rw [List.inj_on_of_nodup_map hids hother hrun (id_of_run? hfound)]

theorem saveRun_of_active (hstored : store.run? copy.id = some run)
    (hactive : run.status.isTerminal = false) :
    store.saveRun copy = (some ⟨overwrite run copy, true⟩,
      { store with
        runs := store.runs.map fun r => if r.id == copy.id then overwrite run copy else r }) := by
  simp [saveRun, hstored, hactive]

theorem run?_replace (store : Store) (changed : Run) (id : String) :
    { store with
      runs := store.runs.map fun r => if r.id == changed.id then changed else r : Store }.run? id =
      (store.run? id).map fun run => if run.id == changed.id then changed else run := by
  have hid : (fun run : Run => run.id == id) ∘
      (fun r => if r.id == changed.id then changed else r) = fun run => run.id == id := by
    funext run
    by_cases h : run.id = changed.id <;> simp [h]
  simp only [run?, List.find?_map, hid]

theorem run?_saveRun_of_ne (h : id ≠ copy.id) : (store.saveRun copy).2.run? id = store.run? id := by
  rw [saveRun]
  split
  · rfl
  · next stored hstored =>
    split
    · rfl
    · have hchanged : (overwrite stored copy).id = copy.id :=
        (overwrite_id stored copy).trans (id_of_run? hstored)
      rw [← hchanged, run?_replace, hchanged]
      cases hrun : store.run? id with
      | none => rfl
      | some run => simp [id_of_run? hrun, h]

theorem run?_saveRun_self (store : Store) (copy : Run) : (store.saveRun copy).2.run? copy.id =
    (store.run? copy.id).map fun stored => if stored.status.isTerminal then stored
    else overwrite stored copy := by
  rw [saveRun]
  split
  · next hstored => simp [hstored]
  · next stored hstored =>
    split
    · next hterminal => simp [hstored, hterminal]
    · next hactive =>
      have hchanged : (overwrite stored copy).id = copy.id :=
        (overwrite_id stored copy).trans (id_of_run? hstored)
      rw [← hchanged, run?_replace, hchanged]
      simp [hstored, id_of_run? hstored, hactive]

end Store

end Flowplan
