import Flowplan.Proofs.Run.WellFormed

/-!
# Runs in the course of time

Calls about runs over one store, with a clock that never goes back. Copies may be any that were read
from the store, and workflows come and go meanwhile; every stored run is well formed all the same.
-/

namespace Flowplan

inductive ServiceCall
  | create (hasEngine : Bool) (workflowId : String) (inputs : Entries Json)
  | follow (call : RunCall)

namespace ServiceCall

def routine : ServiceCall → Routine (Except Failure RunCall.Result)
  | .create hasEngine workflowId inputs =>
    Except.map .run <$> (RunService.create hasEngine workflowId inputs).run
  | .follow call => call.routine

def copies : ServiceCall → List Run
  | .follow (.refresh _ copy) | .follow (.poll copy _) => [copy]
  | _ => []

theorem punctual_routine {clock : Time} {call : ServiceCall}
    (h : ∀ copy ∈ call.copies, copy.Timely clock) : Punctual clock call.routine := by
  cases call with
  | create hasEngine workflowId inputs =>
    exact Surroundings.secures_map.mpr (RunService.punctual_create hasEngine workflowId inputs)
  | follow call =>
    cases call with
    | get hasEngine id refreshed =>
      exact Surroundings.secures_map.mpr (RunService.punctual_get hasEngine id refreshed)
    | refresh hasEngine copy =>
      exact Surroundings.secures_map.mpr (RunService.punctual_refresh hasEngine
        (h copy List.mem_cons_self))
    | cancel hasEngine id =>
      exact Surroundings.secures_map.mpr (RunService.punctual_cancel hasEngine id)
    | poll copy jobId =>
      exact Surroundings.secures_map.mpr (Poller.punctual_poll (h copy List.mem_cons_self) jobId)
    | tick => exact Surroundings.secures_map.mpr Poller.punctual_tick

end ServiceCall

def Action.time? : (action : Action) → action.Answer → Option Time
  | .readClock, now => some now
  | .insertRun .., run => Run.createdAt run
  | _, _ => none

def Action.created : (action : Action) → action.Answer → List Run
  | .insertRun .., run => [run]
  | _, _ => []

structure Timeline extends System ServiceCall (Except Failure RunCall.Result) where
  clock : Time
  past : List Run

namespace Timeline

def initial (clock : Time) : Timeline := ⟨⟨{}, []⟩, clock, []⟩

/-- A call starts with copies that were once read, or the next request of one is answered at a time
that is not before the last one; in between, workflows are deployed and deleted. -/
inductive Step : Timeline → Timeline → Prop
  | start {store tasks clock past} (call : ServiceCall) : (∀ copy ∈ call.copies, copy ∈ past) →
    Step ⟨⟨store, tasks⟩, clock, past⟩ ⟨⟨store, tasks ++ [⟨call, [], call.routine⟩]⟩, clock, past⟩
  | answer {store store' call history action answer next clock past} (before after) (now : Time) :
    Store.Answers store action answer store' → clock.seconds ≤ now.seconds →
    (∀ time ∈ action.time? answer, time = now) →
    Step ⟨⟨store, before ++ ⟨call, history, .ask action next⟩ :: after⟩, clock, past⟩
      ⟨⟨store', before ++ ⟨call, history ++ [⟨action, answer⟩], next answer⟩ :: after⟩, now,
        past ++ store'.runs ++ action.created answer⟩
  | deploy {store tasks clock past} (workflows : List Workflow) :
    Step ⟨⟨store, tasks⟩, clock, past⟩ ⟨⟨{ store with workflows := workflows }, tasks⟩, clock, past⟩

end Timeline

namespace Store

variable {store store' : Store} {action : Action} {answer : action.Answer} {now : Time}

theorem timely_saveRun {copy : Run} (hruns : ∀ run ∈ store.runs, run.Timely now)
    (hcopy : copy.Timely now) : ∀ run ∈ (store.saveRun copy).2.runs, run.Timely now := by
  rw [saveRun]
  split
  · exact hruns
  · next stored _ =>
    split
    · exact hruns
    · intro run hrun
      obtain ⟨before, hbefore, rfl⟩ := List.mem_map.mp hrun
      split
      · exact hcopy.overwrite stored
      · exact hruns before hbefore

theorem Answers.tells (h : Answers store action answer store')
    (hruns : ∀ run ∈ store.runs, run.Timely now)
    (htime : ∀ time ∈ action.time? answer, time = now) : action.Tells now answer := by
  cases h with
  | findRun id => exact fun run hrun => hruns run (List.mem_of_find?_eq_some hrun)
  | listActive => exact fun run hrun => hruns run (List.mem_filter.mp hrun).1
  | readClock => exact htime _ rfl
  | _ => exact trivial

theorem Answers.timely (h : Answers store action answer store')
    (hruns : ∀ run ∈ store.runs, run.Timely now) (hallowed : action.IsTimely now) :
    ∀ run ∈ store'.runs, run.Timely now := by
  cases h with
  | saveRun copy => exact timely_saveRun hruns hallowed
  | @insertRun _ freshId workflowId inputs jobId createdAt =>
    intro run hrun
    rcases List.mem_append.mp hrun with hrun | hrun
    · exact hruns run hrun
    · cases List.mem_singleton.mp hrun
      exact Run.timely_queued freshId workflowId (settle inputs) jobId
  | insertWorkflow | updateWorkflow => cases hallowed
  | _ => exact hruns

theorem Answers.timely_of_created (h : Answers store action answer store') :
    ∀ run ∈ action.created answer, run.Timely now := by
  intro run hrun
  cases h with
  | @insertRun _ freshId workflowId inputs jobId createdAt =>
    cases List.mem_singleton.mp hrun
    exact Run.timely_queued freshId workflowId inputs jobId
  | _ => cases hrun

end Store

namespace Timeline

structure Kept (s : Timeline) : Prop where
  stored : ∀ run ∈ s.store.runs, run.Timely s.clock
  past : ∀ run ∈ s.past, run.Timely s.clock
  tasks : ∀ task ∈ s.tasks, Punctual s.clock task.rest

variable {s t : Timeline} {clock : Time}

theorem Kept.step (h : s.Kept) (hstep : Step s t) : t.Kept := by
  obtain ⟨hstored, hpast, htasks⟩ := h
  cases hstep with
  | start call hcopies =>
    refine ⟨hstored, hpast, fun task htask => ?_⟩
    rcases List.mem_append.mp htask with htask | htask
    · exact htasks task htask
    · cases List.mem_singleton.mp htask
      exact ServiceCall.punctual_routine fun copy hcopy => hpast copy (hcopies copy hcopy)
  | @answer store store' call history action answer next clock past before after now hanswer
      hnow htime =>
    have hruns : ∀ run ∈ store.runs, run.Timely now := fun run hrun => (hstored run hrun).later hnow
    obtain ⟨hallowed, hnext⟩ := htasks _ (List.mem_append_right before List.mem_cons_self) now hnow
    have hruns' := hanswer.timely hruns hallowed
    refine ⟨hruns', fun run hrun => ?_, fun task htask => ?_⟩
    · rcases List.mem_append.mp hrun with hrun | hrun
      · exact (List.mem_append.mp hrun).elim (fun hrun => (hpast run hrun).later hnow) (hruns' run)
      · exact hanswer.timely_of_created run hrun
    · rcases List.mem_append.mp htask with htask | htask
      · exact (htasks task (List.mem_append_left _ htask)).later hnow
      · rcases List.mem_cons.mp htask with rfl | htask
        · exact hnext answer now ⟨Nat.le_refl _, hanswer.tells hruns htime⟩
        · exact (htasks task (List.mem_append_right _ (.tail _ htask))).later hnow
  | deploy workflows => exact ⟨hstored, hpast, htasks⟩

theorem kept_of_run (hrun : Relation.ReflTransGen Step (initial clock) s) : s.Kept := by
  induction hrun with
  | refl =>
    refine ⟨?_, ?_, ?_⟩ <;> exact fun _ h => absurd h List.not_mem_nil
  | tail _ hstep ih => exact ih.step hstep

/-- Whatever calls that start, follow, cancel and poll runs are interleaved over an empty store,
whatever the engine answers and however stale the copies are, the status of every stored run
agrees with its times, its result and its error. -/
theorem wellFormed_of_run (hrun : Relation.ReflTransGen Step (initial clock) s) :
    ∀ run ∈ s.store.runs, run.WellFormed :=
  fun run hmem => ((kept_of_run hrun).stored run hmem).wellFormed

def report : Workflow where
  id := "workflow"
  appId := "shop"
  name := "report"
  description := none
  category := none
  channel := none
  audience := none
  styleName := none
  signature := "signature"
  signatureName := "report"
  dag := .null
  flowPath := some "f/workflows/shop/report"
  status := Workflow.activeStatus
  createdAt := none
  updatedAt := ⟨0⟩

def reported : Run := .queued "run" (some "workflow") (.obj []) (some "job") ⟨2⟩

def atWork : Job := ⟨some "job", true, none, .null, none, none, none, []⟩

def observed : Run := { reported with status := .running, startedAt := some ⟨3⟩ }

/-- A run is created, and its copy is refreshed while its job is at work. -/
theorem wellFormed_of_refreshed : ∃ s : Timeline, Relation.ReflTransGen Step (initial ⟨1⟩) s ∧
    s.store.runs = [observed] ∧ ∀ run ∈ s.store.runs, run.WellFormed := by
  let store (runs : List Run) : Store := { workflows := [report], runs := runs }
  have hdeploy : Relation.ReflTransGen Step (initial ⟨1⟩) ⟨⟨store [], []⟩, ⟨1⟩, []⟩ :=
    .single (.deploy [report])
  have hstart :=
    hdeploy.tail (.start (.create true "workflow" []) fun _ h => absurd h List.not_mem_nil)
  have hfind := hstart.tail (.answer [] [] ⟨1⟩ (.findWorkflow _ "workflow") (by decide) nofun)
  have hservices := hfind.tail (.answer [] [] ⟨1⟩ (.readServices _ []) (by decide) nofun)
  have hflow := hservices.tail (.answer [] [] ⟨1⟩
    (@Store.Answers.engine (.runFlow "f/workflows/shop/report" _) (.ok "job") _ nofun)
      (by decide) nofun)
  have hcreated : Store.Answers (store []) (.insertRun (some "workflow") (.obj []) (some "job"))
      reported (store [reported]) := .insertRun _ _ _ ⟨2⟩ rfl
  have hinsert :=
    hflow.tail (.answer [] [] ⟨2⟩ hcreated (by decide) fun _ h => (Option.some.inj h).symm)
  have hreport := hinsert.tail (.answer [] [] ⟨2⟩ (.report _ _) (by decide) nofun)
  have hcopy : ∀ copy ∈ (ServiceCall.follow (.refresh true reported)).copies,
      copy ∈ [reported, reported, reported] := by
    decide
  have hrefresh := hreport.tail (.start (.follow (.refresh true reported)) hcopy)
  have hjob := hrefresh.tail (.answer [_] [] ⟨2⟩
    (@Store.Answers.engine (.getJob "job") (.ok atWork) _ nofun) (by decide) nofun)
  have hclock := hjob.tail
    (.answer [_] [] ⟨3⟩ (.readClock _ ⟨3⟩) (by decide) fun _ h => (Option.some.inj h).symm)
  have hwritten : Store.Answers (store [reported]) (.saveRun observed) (some ⟨observed, true⟩)
      (store [observed]) := .saveRun _ observed
  have hsave := hclock.tail (.answer [_] [] ⟨3⟩ hwritten (Nat.le_refl 3) nofun)
  exact ⟨_, hsave, rfl, wellFormed_of_run hsave⟩

end Timeline

end Flowplan
