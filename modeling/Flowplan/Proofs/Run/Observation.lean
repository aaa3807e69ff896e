import Flowplan.Run.Basic
import Mathlib.Data.List.Basic

namespace Flowplan

structure Report where
  job : Job
  time : Time
deriving DecidableEq

namespace Report

variable {report : Report} {reports : List Report}

def finish? (reports : List Report) : Option Nat := reports.findIdx? (!·.job.running)

def start? (reports : List Report) : Option Nat :=
  (reports.take ((finish? reports).getD reports.length)).findIdx? (·.job.running)

@[simp] theorem finish?_nil : finish? [] = none := rfl

theorem finish?_cons_of_running (h : report.job.running = true) :
    finish? (report :: reports) = (finish? reports).map (· + 1) := by
  simp [finish?, List.findIdx?_cons, h]

theorem finish?_cons_of_finished (h : report.job.running = false) :
    finish? (report :: reports) = some 0 := by
  simp [finish?, List.findIdx?_cons, h]

theorem finish?_take {n k : Nat} (h : finish? reports = some k) (hk : k < n) :
    finish? (reports.take n) = some k := by
  rw [finish?] at h ⊢
  rw [List.findIdx?_take, h]
  simp [Option.guard, hk]

@[simp] theorem start?_nil : start? [] = none := rfl

theorem start?_cons_of_running (h : report.job.running = true) :
    start? (report :: reports) = some 0 := by
  cases hfinish : finish? reports <;>
    simp [start?, finish?_cons_of_running h, hfinish, List.findIdx?_cons, h]

theorem start?_cons_of_finished (h : report.job.running = false) :
    start? (report :: reports) = none := by
  simp [start?, finish?_cons_of_finished h]

end Report

open Report

namespace Run

variable {run : Run} {report : Report} {reports : List Report}

def heed (run : Run) (report : Report) : Run := (run.observe report.job report.time).getD run

def heedAll (run : Run) (reports : List Report) : Run := reports.foldl heed run

def changes (run : Run) : List Report → List Bool
  | [] => []
  | report :: reports =>
    (run.observe report.job report.time).isSome :: (run.heed report).changes reports

def start (run : Run) (report : Report) : Run :=
  { run with status := .running, startedAt := some report.time }

def conclude (run : Run) (report : Report) : Run :=
  if report.job.success = some true then
    { run with
      status := .completed, result := report.job.result, error := none,
      completedAt := some report.time }
  else
    { run with
      status := .failed, result := .null, error := some (failureText report.job.result)
      completedAt := some report.time }

theorem isTerminal_conclude : (run.conclude report).status.isTerminal = true := by
  unfold conclude
  split <;> rfl

@[simp] theorem startedAt_conclude : (run.conclude report).startedAt = run.startedAt := by
  unfold conclude
  split <;> rfl

@[simp] theorem heedAll_cons :
    run.heedAll (report :: reports) = (run.heed report).heedAll reports := rfl

theorem heedAll_append (run : Run) (before after : List Report) :
    run.heedAll (before ++ after) = (run.heedAll before).heedAll after :=
  List.foldl_append

@[simp] theorem length_changes (run : Run) (reports : List Report) :
    (run.changes reports).length = reports.length := by
  induction reports generalizing run with
  | nil => rfl
  | cons report reports ih => simp [changes, ih]

theorem observe_of_finished (hactive : run.status.isTerminal = false)
    (h : report.job.running = false) :
    run.observe report.job report.time = some (run.conclude report) := by
  simp only [observe, hactive, h, conclude, beq_iff_eq, Bool.not_false,
    Bool.false_eq_true, reduceIte]
  split <;> rfl

theorem observe_of_queued (hqueued : run.status = .queued) (h : report.job.running = true) :
    run.observe report.job report.time = some (run.start report) := by
  simp [observe, hqueued, h, start, RunStatus.isTerminal]

theorem observe_of_running (hrunning : run.status = .running) (h : report.job.running = true) :
    run.observe report.job report.time = none := by
  simp [observe, hrunning, h, RunStatus.isTerminal]

theorem heed_of_isTerminal (hterminal : run.status.isTerminal = true) : run.heed report = run := by
  simp [heed, observe_of_isTerminal hterminal]

theorem heed_of_finished (hactive : run.status.isTerminal = false)
    (h : report.job.running = false) : run.heed report = run.conclude report := by
  simp [heed, observe_of_finished hactive h]

theorem heed_of_queued (hqueued : run.status = .queued) (h : report.job.running = true) :
    run.heed report = run.start report := by
  simp [heed, observe_of_queued hqueued h]

theorem heed_of_running (hrunning : run.status = .running) (h : report.job.running = true) :
    run.heed report = run := by
  simp [heed, observe_of_running hrunning h]

theorem heedAll_of_isTerminal (hterminal : run.status.isTerminal = true) (reports : List Report) :
    run.heedAll reports = run := by
  induction reports with
  | nil => rfl
  | cons report reports ih => rw [heedAll_cons, heed_of_isTerminal hterminal, ih]

theorem changes_of_isTerminal (hterminal : run.status.isTerminal = true) (reports : List Report) :
    run.changes reports = List.replicate reports.length false := by
  induction reports with
  | nil => rfl
  | cons report reports ih =>
    rw [changes, observe_of_isTerminal hterminal, heed_of_isTerminal hterminal, ih]
    rfl

theorem getElem?_changes_of_isTerminal (hterminal : run.status.isTerminal = true)
    (reports : List Report) (i : Nat) : (run.changes reports)[i]? ≠ some true := by
  rw [changes_of_isTerminal hterminal, List.getElem?_replicate]
  split <;> simp

theorem heedAll_of_running (hrunning : run.status = .running) (reports : List Report) :
    run.heedAll reports = ((finish? reports).bind (reports[·]?)).elim run run.conclude := by
  have hactive : run.status.isTerminal = false := by rw [hrunning]; rfl
  induction reports with
  | nil => rfl
  | cons report reports ih =>
    cases h : report.job.running with
    | true =>
      rw [heedAll_cons, heed_of_running hrunning h, ih, finish?_cons_of_running h, Option.bind_map]
      rfl
    | false =>
      rw [heedAll_cons, heed_of_finished hactive h, heedAll_of_isTerminal isTerminal_conclude,
        finish?_cons_of_finished h]
      rfl

theorem getElem?_changes_of_running (hrunning : run.status = .running)
    (reports : List Report) (i : Nat) :
    (run.changes reports)[i]? = some true ↔ finish? reports = some i := by
  have hactive : run.status.isTerminal = false := by rw [hrunning]; rfl
  induction reports generalizing i with
  | nil => simp [changes]
  | cons report reports ih =>
    cases h : report.job.running with
    | true =>
      rw [changes, observe_of_running hrunning h, heed_of_running hrunning h,
        finish?_cons_of_running h]
      cases i with
      | zero => simp
      | succ i => simp [ih]
    | false =>
      rw [changes, observe_of_finished hactive h, heed_of_finished hactive h,
        finish?_cons_of_finished h]
      cases i with
      | zero => simp
      | succ i => simp [getElem?_changes_of_isTerminal isTerminal_conclude]

theorem isTerminal_heedAll {k : Nat} (h : finish? reports = some k) :
    (run.heedAll reports).status.isTerminal = true := by
  induction reports generalizing run k with
  | nil => cases h
  | cons report reports ih =>
    rw [heedAll_cons]
    cases hterminal : (run.heed report).status.isTerminal with
    | true => rwa [heedAll_of_isTerminal hterminal]
    | false =>
      cases hrunning : report.job.running with
      | true =>
        rw [finish?_cons_of_running hrunning, Option.map_eq_some_iff] at h
        obtain ⟨k, hk, -⟩ := h
        exact ih hk
      | false =>
        cases hactive : run.status.isTerminal with
        | true => rw [heed_of_isTerminal hactive, hactive] at hterminal; cases hterminal
        | false =>
          rw [heed_of_finished hactive hrunning, isTerminal_conclude] at hterminal; cases hterminal

theorem heedAll_take {n k : Nat} (h : finish? reports = some k) (hk : k < n) :
    run.heedAll (reports.take n) = run.heedAll reports := by
  have hterminal : (run.heedAll (reports.take n)).status.isTerminal = true :=
    isTerminal_heedAll (finish?_take h hk)
  conv_rhs =>
    rw [← List.take_append_drop n reports, heedAll_append, heedAll_of_isTerminal hterminal]

def begun (run : Run) (reports : List Report) : Run :=
  ((start? reports).bind (reports[·]?)).elim run run.start

theorem heedAll_of_queued (hqueued : run.status = .queued) (reports : List Report) :
    run.heedAll reports =
      ((finish? reports).bind (reports[·]?)).elim (run.begun reports)
        (run.begun reports).conclude := by
  have hactive : run.status.isTerminal = false := by rw [hqueued]; rfl
  cases reports with
  | nil => rfl
  | cons report reports =>
    cases h : report.job.running with
    | true =>
      rw [heedAll_cons, heed_of_queued hqueued h, heedAll_of_running rfl, begun,
        start?_cons_of_running h, finish?_cons_of_running h, Option.bind_map]
      rfl
    | false =>
      rw [heedAll_cons, heed_of_finished hactive h, heedAll_of_isTerminal isTerminal_conclude,
        begun, start?_cons_of_finished h, finish?_cons_of_finished h]
      rfl

theorem getElem?_changes_of_queued (hqueued : run.status = .queued)
    (reports : List Report) (i : Nat) :
    (run.changes reports)[i]? = some true ↔ start? reports = some i ∨ finish? reports = some i := by
  have hactive : run.status.isTerminal = false := by rw [hqueued]; rfl
  cases reports with
  | nil => simp [changes]
  | cons report reports =>
    cases h : report.job.running with
    | true =>
      rw [changes, observe_of_queued hqueued h, heed_of_queued hqueued h, start?_cons_of_running h,
        finish?_cons_of_running h]
      cases i with
      | zero => simp
      | succ i => simp [getElem?_changes_of_running (rfl : (run.start report).status = .running)]
    | false =>
      rw [changes, observe_of_finished hactive h, heed_of_finished hactive h,
        start?_cons_of_finished h, finish?_cons_of_finished h]
      cases i with
      | zero => simp
      | succ i => simp [getElem?_changes_of_isTerminal isTerminal_conclude]

theorem begun_eq (hqueued : run.status = .queued) (hstarted : run.startedAt = none)
    (reports : List Report) : run.begun reports =
      { run with
        status := if (start? reports).isSome then .running else .queued
        startedAt := ((start? reports).bind (reports[·]?)).map Report.time } := by
  have hself : run = { run with status := .queued, startedAt := none } := by
    rw [← hqueued, ← hstarted]
  cases reports with
  | nil => exact hself
  | cons report reports =>
    cases h : report.job.running with
    | true => rw [begun, start?_cons_of_running h]; rfl
    | false => rw [begun, start?_cons_of_finished h]; exact hself

structure Attended (run : Run) (reports : List Report) : Prop where
  answered : (run.changes reports).length = reports.length
  changed : ∀ i, (run.changes reports)[i]? = some true ↔
    start? reports = some i ∨ finish? reports = some i
  started : (run.heedAll reports).startedAt = ((start? reports).bind (reports[·]?)).map Report.time
  unfinished : finish? reports = none → run.heedAll reports =
    { run with
      status := if (start? reports).isSome then .running else .queued
      startedAt := (run.heedAll reports).startedAt
      completedAt := none }
  finished : ∀ k report, finish? reports = some k → reports[k]? = some report →
    run.heedAll reports = { run with
      status := if report.job.success = some true then .completed else .failed
      result := if report.job.success = some true then report.job.result else .null
      error := if report.job.success = some true then none else some (failureText report.job.result)
      startedAt := (run.heedAll reports).startedAt
      completedAt := some report.time }
  absorbed : ∀ k n, finish? reports = some k → k < n →
    run.heedAll (reports.take n) = run.heedAll reports

theorem attended_of_queued (hqueued : run.status = .queued) (hstarted : run.startedAt = none)
    (hcompleted : run.completedAt = none) (reports : List Report) : run.Attended reports := by
  have hbegun := begun_eq hqueued hstarted reports
  have htime : (run.heedAll reports).startedAt = (run.begun reports).startedAt := by
    rw [heedAll_of_queued hqueued]
    cases (finish? reports).bind (reports[·]?) with
    | none => rfl
    | some report => exact startedAt_conclude
  refine ⟨length_changes run reports, getElem?_changes_of_queued hqueued reports, ?started,
    ?unfinished, ?finished, fun _ _ => heedAll_take⟩
  case started => rw [htime, hbegun]
  case unfinished =>
    intro hfinish
    rw [htime, heedAll_of_queued hqueued, hfinish, hbegun, ← hcompleted]
    rfl
  case finished =>
    intro k report hfinish hreport
    rw [htime, heedAll_of_queued hqueued, hfinish, Option.bind_some, hreport, hbegun,
      Option.elim_some, conclude]
    split <;> rfl

def retried : List Report :=
  [⟨job true none .null, ⟨1⟩⟩, ⟨job true none .null, ⟨2⟩⟩,
    ⟨job false (some false) (.str "no route"), ⟨3⟩⟩, ⟨job false (some true) (.int 7), ⟨4⟩⟩]
where
  job (running : Bool) (success : Option Bool) (result : Json) : Job :=
    ⟨none, running, success, result, none, none, none, []⟩

def unanswered : Run := queued "run" none .null (some "job") ⟨0⟩

theorem attended_of_retried :
    (unanswered.status = .queued ∧ unanswered.startedAt = none ∧ unanswered.completedAt = none) ∧
      unanswered.Attended retried ∧ unanswered.changes retried = [true, false, true, false] ∧
      unanswered.heedAll retried =
        { unanswered with
          status := .failed, error := some "no route", startedAt := some ⟨1⟩, completedAt :=
            some ⟨3⟩ } :=
  ⟨⟨rfl, rfl, rfl⟩, attended_of_queued rfl rfl rfl retried, by decide, by decide⟩

end Run

end Flowplan
