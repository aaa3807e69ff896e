import Flowplan.Run.Procedure
import Mathlib.Logic.Relation

/-!
# Interleaved routines

Any number of routines over one store. They take turns at their requests, each of which is answered
in one step; what a routine was answered is all that it knows of the others.
-/

namespace Flowplan

structure Exchange where
  action : Action
  answer : action.Answer

def Failure.isRefusedMove : Failure → Bool
  | .forbiddenMove .. | .finished _ => true
  | _ => false

namespace Store

/-- The answers to a request and the store that they leave. The engine, the clock and the
surroundings say anything, but an engine knows nothing of the moves of a run. -/
inductive Answers : Store → (action : Action) → action.Answer → Store → Prop
  | findWorkflow (store id) : Answers store (.findWorkflow id) (store.liveWorkflow? id) store
  | findSignature (store app signature) :
    Answers store (.findSignature app signature) (store.bySignature? app signature true) store
  | listNames (store app) : Answers store (.listNames app) (store.usedNames app) store
  | insertWorkflow {store draft freshId now workflow store'} :
    store.insertWorkflow draft freshId now = .ok (workflow, store') →
    Answers store (.insertWorkflow draft) (.ok workflow) store'
  | refuseInsert {store draft freshId now failure} : store.insertWorkflow draft freshId now =
      .error failure →
    Answers store (.insertWorkflow draft) (.error failure) store
  | updateWorkflow {store id change now workflow store'} :
    store.updateWorkflow id change now = .ok (workflow, store') →
    Answers store (.updateWorkflow id change) (.ok workflow) store'
  | refuseUpdate {store id change now failure} : store.updateWorkflow id change now =
      .error failure →
    Answers store (.updateWorkflow id change) (.error failure) store
  | insertRun {store freshId} (workflowId inputs jobId now) : store.run? freshId = none →
    Answers store (.insertRun workflowId inputs jobId) (.queued freshId workflowId inputs jobId now)
      (store.insertRun (.queued freshId workflowId inputs jobId now))
  | findRun (store id) : Answers store (.findRun id) (store.run? id) store
  | listActive (store) : Answers store .listActive (.ok (store.runsIn RunStatus.active)) store
  | listTrouble (store failure) : Answers store .listActive (.error failure) store
  | saveRun (store copy) : Answers store (.saveRun copy) (store.saveRun copy).1
      (store.saveRun copy).2
  | engine {call reply} (store) : (∀ failure, reply = .error failure →
      failure.isRefusedMove = false) →
    Answers store (.engine call) reply store
  | readClock (store now) : Answers store .readClock now store
  | readServices (store environment) : Answers store .readServices environment store
  | report (store entry) : Answers store (.report entry) () store
  | beginPoll (store free) : Answers store .beginPoll free store
  | endPoll (store) : Answers store .endPoll () store

end Store

structure Task (Call α : Type) where
  call : Call
  history : List Exchange
  rest : Routine α

structure System (Call α : Type) where
  store : Store
  tasks : List (Task Call α)

inductive System.Step {Call α : Type} (routine : Call → Routine α) :
    System Call α → System Call α → Prop
  | start (store tasks call) :
      Step routine ⟨store, tasks⟩ ⟨store, tasks ++ [⟨call, [], routine call⟩]⟩
  | answer {store store' call history action answer next} (before after) :
    Store.Answers store action answer store' →
    Step routine ⟨store, before ++ ⟨call, history, .ask action next⟩ :: after⟩
      ⟨store', before ++ ⟨call, history ++ [⟨action, answer⟩], next answer⟩ :: after⟩

/-- What a routine may ask for, after what it was answered, and what it may expect of an answer. -/
structure Contract where
  may : List Exchange → Action → Prop
  expects : (action : Action) → action.Answer → Prop

namespace Contract

variable {Call α β : Type} {k : Contract} {history : List Exchange}

/-- A routine keeps a contract, and its result has a property whatever it is answered. -/
def Ensures (k : Contract) (post : List Exchange → α → Prop) : List Exchange → Routine α → Prop
  | history, .done value => post history value
  | history, .ask action next => k.may history action ∧
      ∀ answer, k.expects action answer →
        k.Ensures post (history ++ [⟨action, answer⟩]) (next answer)

theorem ensures_bind {post : List Exchange → β → Prop} {routine : Routine α}
    {next : α → Routine β} : k.Ensures post history (routine >>= next) ↔
      k.Ensures (fun history value => k.Ensures post history (next value)) history routine := by
  induction routine generalizing history with
  | done value => rfl
  | ask action rest ih =>
    constructor
    · exact fun h => ⟨h.1, fun answer hanswer => (ih answer).mp (h.2 answer hanswer)⟩
    · exact fun h => ⟨h.1, fun answer hanswer => (ih answer).mpr (h.2 answer hanswer)⟩

theorem ensures_map {post : List Exchange → β → Prop} {routine : Routine α} {f : α → β} :
    k.Ensures post history (f <$> routine) ↔
      k.Ensures (fun history value => post history (f value)) history routine :=
  ensures_bind

theorem Ensures.imp {post post' : List Exchange → α → Prop} {routine : Routine α}
    (hpost : ∀ history value, post history value → post' history value)
    (h : k.Ensures post history routine) : k.Ensures post' history routine := by
  induction routine generalizing history with
  | done value => exact hpost history value h
  | ask action rest ih => exact ⟨h.1, fun answer hanswer => ih answer (h.2 answer hanswer)⟩

@[simp] theorem ensures_pure {post : List Exchange → α → Prop} {value : α} :
    k.Ensures post history (pure value) ↔ post history value :=
  Iff.rfl

theorem Ensures.extends {post : List Exchange → α → Prop} {routine : Routine α}
    (h : k.Ensures post history routine) :
    k.Ensures (fun later value => post later value ∧ ∃ more, later = history ++ more) history
      routine := by
  induction routine generalizing history with
  | done value => exact ⟨h, [], (List.append_nil history).symm⟩
  | ask action rest ih =>
    refine ⟨h.1, fun answer hanswer => (ih answer (h.2 answer hanswer)).imp
      fun later value hlater => ?_⟩
    obtain ⟨hpost, more, rfl⟩ := hlater
    exact ⟨hpost, ⟨action, answer⟩ :: more, by simp⟩

theorem Ensures.weaken {k' : Contract} {post : List Exchange → α → Prop} {routine : Routine α}
    (hmay : ∀ history action, k.may history action → k'.may history action)
    (hexpects : ∀ action answer, k'.expects action answer → k.expects action answer)
    (h : k.Ensures post history routine) : k'.Ensures post history routine := by
  induction routine generalizing history with
  | done value => exact h
  | ask action rest ih =>
    exact ⟨hmay _ _ h.1, fun answer hanswer => ih answer (h.2 answer (hexpects _ _ hanswer))⟩

theorem ensures_send_bind {post : List Exchange → β → Prop} {action : Action}
    {next : action.Answer → Routine β} (hmay : k.may history action)
    (hnext : ∀ answer, k.expects action answer →
      k.Ensures post (history ++ [⟨action, answer⟩]) (next answer)) :
    k.Ensures post history (send action >>= next) :=
  ⟨hmay, hnext⟩

section Procedures

variable {post : List Exchange → Except Failure β → Prop}

theorem ensures_run_bind {procedure : Procedure α} {next : α → Procedure β}
    {middle : List Exchange → Except Failure α → Prop} (h : k.Ensures middle history procedure.run)
    (hnext : ∀ history value, middle history (.ok value) → k.Ensures post history (next value).run)
    (herror : ∀ history failure, middle history (.error failure) → post history (.error failure)) :
    k.Ensures post history (procedure >>= next).run := by
  rw [ExceptT.run_bind, ensures_bind]
  refine h.imp ?_
  intro history outcome houtcome
  cases outcome with
  | ok value => exact hnext history value houtcome
  | error failure => exact herror history failure houtcome

theorem ensures_lift_bind {routine : Routine α} {next : α → Procedure β}
    {middle : List Exchange → α → Prop} (h : k.Ensures middle history routine)
    (hnext : ∀ history value, middle history value → k.Ensures post history (next value).run) :
    k.Ensures post history (ExceptT.lift routine >>= next).run := by
  rw [ExceptT.run_bind_lift, ensures_bind]
  exact h.imp hnext

theorem ensures_ask_bind {action : Action} {next : action.Answer → Procedure β}
    (hmay : k.may history action) (hnext : ∀ answer, k.expects action answer →
      k.Ensures post (history ++ [⟨action, answer⟩]) (next answer).run) :
    k.Ensures post history (Procedure.ask action >>= next).run :=
  ⟨hmay, hnext⟩

theorem ensures_report_bind {level : Level} {component message : String} {data : Entries Json}
    {runId : Option String} {next : Unit → Procedure β}
    (hmay : k.may history (.report ⟨level, component, message, data, runId⟩))
    (hnext : k.Ensures post (history ++ [⟨.report ⟨level, component, message, data, runId⟩, ()⟩])
      (next ()).run) :
    k.Ensures post history (Procedure.report level component message data runId >>= next).run :=
  ⟨hmay, fun _ _ => hnext⟩

theorem ensures_call_bind {call : EngineCall} {next : call.Reply → Procedure β}
    (hmay : k.may history (.engine call))
    (hnext : ∀ reply, k.Ensures post (history ++ [⟨.engine call, .ok reply⟩]) (next reply).run)
    (herror : ∀ failure, k.expects (.engine call) (.error failure) →
      post (history ++ [⟨.engine call, .error failure⟩]) (.error failure)) :
    k.Ensures post history (Procedure.call call >>= next).run := by
  refine ⟨hmay, fun answer hanswer => ?_⟩
  cases answer with
  | ok reply => exact hnext reply
  | error failure => exact herror failure hanswer

theorem ensures_tryCall_bind {call : EngineCall}
    {next : Except EngineFault call.Reply → Procedure β} (hmay : k.may history (.engine call))
    (hnext : ∀ reply outcome, k.expects (.engine call) reply →
      Procedure.separateFault reply = .ok outcome →
      k.Ensures post (history ++ [⟨.engine call, reply⟩]) (next outcome).run)
    (herror : ∀ failure, k.expects (.engine call) (.error failure) →
      post (history ++ [⟨.engine call, .error failure⟩]) (.error failure)) :
    k.Ensures post history (Procedure.tryCall call >>= next).run := by
  refine ⟨hmay, fun answer hanswer => ?_⟩
  cases answer with
  | ok reply => exact hnext (.ok reply) (.ok reply) hanswer rfl
  | error failure =>
    cases failure with
    | engine fault => exact hnext (.error (.engine fault)) (.error fault) hanswer rfl
    | _ => exact herror _ hanswer

end Procedures

def KeptBy (k : Call → Contract) (post : Call → List Exchange → α → Prop) (s : System Call α) :
    Prop := ∀ task ∈ s.tasks, (k task.call).Ensures (post task.call) task.history task.rest

def Kept (k : Contract) (post : Call → List Exchange → α → Prop) (s : System Call α) : Prop :=
  ∀ task ∈ s.tasks, k.Ensures (post task.call) task.history task.rest

variable {routine : Call → Routine α} {post : Call → List Exchange → α → Prop} {s t : System Call α}

theorem Kept.exists_answer (h : k.Kept post s) (hstep : System.Step routine s t) :
    t.store = s.store ∨ ∃ history action answer, k.may history action ∧
    s.store.Answers action answer t.store := by
  cases hstep with
  | start store tasks call => exact .inl rfl
  | @answer store store' call history action answer next before after hanswer =>
    exact .inr ⟨history, action, answer, (h ⟨call, history, .ask action next⟩ (by simp)).1, hanswer⟩

section PerCall

variable {k : Call → Contract}
  (hanswers : ∀ call store action answer store', Store.Answers store action answer store' →
    (k call).expects action answer)
  (hroutine : ∀ call, (k call).Ensures (post call) [] (routine call))

include hanswers hroutine

theorem KeptBy.step (h : KeptBy k post s) (hstep : System.Step routine s t) : KeptBy k post t := by
  cases hstep with
  | start store tasks call =>
    intro task htask
    rcases List.mem_append.mp htask with htask | htask
    · exact h task htask
    · exact List.mem_singleton.mp htask ▸ hroutine call
  | @answer store store' call history action answer next before after hanswer =>
    have hasked := h ⟨call, history, .ask action next⟩ (by simp)
    intro task htask
    rcases List.mem_append.mp htask with htask | htask
    · exact h task (by simp [htask])
    · rcases List.mem_cons.mp htask with rfl | htask
      · exact hasked.2 answer (hanswers _ _ _ _ _ hanswer)
      · exact h task (by simp [htask])

theorem KeptBy.run (h : KeptBy k post s) (hrun : Relation.ReflTransGen (System.Step routine) s t) :
    KeptBy k post t := by
  induction hrun with
  | refl => exact h
  | tail _ hstep ih => exact ih.step hanswers hroutine hstep

end PerCall

variable (hanswers : ∀ store action answer store', Store.Answers store action answer store' →
  k.expects action answer)
  (hroutine : ∀ call, k.Ensures (post call) [] (routine call))

include hanswers hroutine

theorem Kept.step (h : k.Kept post s) (hstep : System.Step routine s t) : k.Kept post t :=
  KeptBy.step (fun _ => hanswers) hroutine h hstep

theorem Kept.run (h : k.Kept post s) (hrun : Relation.ReflTransGen (System.Step routine) s t) :
    k.Kept post t := KeptBy.run (fun _ => hanswers) hroutine h hrun

theorem kept_of_run {store : Store}
    (hrun : Relation.ReflTransGen (System.Step routine) ⟨store, []⟩ t) : k.Kept post t :=
  Kept.run hanswers hroutine (fun _ h => absurd h List.not_mem_nil) hrun

end Contract

end Flowplan
