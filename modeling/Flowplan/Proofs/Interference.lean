import Flowplan.Proofs.Conduct
import Flowplan.Proofs.Store.Identity

namespace Flowplan

def Failure.isNameless : Failure → Bool
  | .noFreeName .. => true
  | _ => false

namespace Store

/-- Ids that are given out are new, so that no draft is refused for its
id; and the engine knows nothing of names. -/
def Fair (store : Store) : (action : Action) → action.Answer → Prop
  | .insertWorkflow draft, .error failure => ∃ freshId now, store.workflow? freshId = none ∧
      store.insertWorkflow draft freshId now = .error failure
  | .engine _, .error failure => failure.isNameless = false
  | _, _ => True

def amid : Surroundings Action.Answer (Store × List Exchange) where
  answers s action answer t := s.1.Answers action answer t.1 ∧ s.1.Fair action answer ∧
    t.2 = s.2 ++ [⟨action, answer⟩]
  others s t := s.1.Grows t.1 ∧ t.2 = s.2
  allowed _ action := action.KeepsIdentity

end Store

def Exchange.inserted? : Exchange → Option Workflow
  | ⟨.insertWorkflow _, .ok workflow⟩ => some workflow
  | _ => none

def inserted (history : List Exchange) : List Workflow := history.filterMap Exchange.inserted?

@[simp] theorem inserted_append (history rest : List Exchange) :
    inserted (history ++ rest) = inserted history ++ inserted rest :=
  List.filterMap_append

theorem Store.apart_of_inserted {store store' : Store} {action : Action} {answer : action.Answer}
    {workflow : Workflow} (h : store.Answers action answer store')
    (hworkflow : workflow ∈ inserted [⟨action, answer⟩]) :
    workflow.identity ∈ store'.identities ∧ ∀ other ∈ store.identities,
    other.Apart workflow.identity := by
  cases h with
  | insertWorkflow hinsert =>
    obtain rfl : workflow = _ := by simpa [inserted, Exchange.inserted?] using hworkflow
    obtain ⟨_, hidentities, hapart⟩ := Store.identities_of_insert hinsert
    exact ⟨by simp [hidentities], hapart⟩
  | _ => simp [inserted, Exchange.inserted?] at hworkflow

namespace System

variable {Call α : Type} {routine : Call → Routine α} {s t : System Call α}

inductive FairStep (routine : Call → Routine α) : System Call α → System Call α → Prop
  | start (store tasks call) :
      FairStep routine ⟨store, tasks⟩ ⟨store, tasks ++ [⟨call, [], routine call⟩]⟩
  | answer {store store' call history action answer next} (before after) :
    Store.Answers store action answer store' → store.Fair action answer →
    FairStep routine ⟨store, before ++ ⟨call, history, .ask action next⟩ :: after⟩
      ⟨store', before ++ ⟨call, history ++ [⟨action, answer⟩], next answer⟩ :: after⟩

theorem getElem?_start {call : Call} {tasks : List (Task Call α)} {i : Nat} {task : Task Call α}
    (h : (tasks ++ [⟨call, [], routine call⟩])[i]? = some task) :
    tasks[i]? = some task ∨ i = tasks.length ∧ task = ⟨call, [], routine call⟩ := by
  rw [List.getElem?_append] at h
  split at h
  · exact .inl h
  · obtain ⟨hi, rfl⟩ := List.getElem?_eq_some_iff.mp h
    exact .inr ⟨by simp at hi; omega, by simp⟩

theorem getElem?_answer {before after : List (Task Call α)} {asked answered : Task Call α} {i : Nat}
    {task : Task Call α} (h : (before ++ answered :: after)[i]? = some task) :
    i = before.length ∧ task = answered ∨ (before ++ asked :: after)[i]? = some task := by
  rcases Nat.lt_trichotomy i before.length with hi | rfl | hi
  · right
    rwa [List.getElem?_append_left hi] at h ⊢
  · left
    simpa [eq_comm] using h
  · right
    rw [List.getElem?_append_right (by omega)] at h ⊢
    obtain ⟨n, hn⟩ : ∃ n, i - before.length = n + 1 := ⟨i - before.length - 1, by omega⟩
    rw [hn, List.getElem?_cons_succ] at h ⊢
    exact h

def Inserts (s : System Call α) (i : Nat) (workflow : Workflow) : Prop :=
  ∃ task, s.tasks[i]? = some task ∧ workflow ∈ inserted task.history

theorem FairStep.exists_inserter (h : FairStep routine s t) :
    ∃ inserter, ∀ i workflow, t.Inserts i workflow →
    s.Inserts i workflow ∨ i = inserter ∧ workflow.identity ∈ t.store.identities ∧
      ∀ other ∈ s.store.identities, other.Apart workflow.identity := by
  cases h with
  | start store tasks call =>
    refine ⟨0, fun i workflow ⟨task, htask, hworkflow⟩ => .inl ?_⟩
    rcases getElem?_start htask with htask | ⟨rfl, rfl⟩
    · exact ⟨task, htask, hworkflow⟩
    · cases hworkflow
  | @answer store store' call history action answer next before after hanswer hfair =>
    refine ⟨before.length, fun i workflow ⟨task, htask, hworkflow⟩ => ?_⟩
    rcases getElem?_answer htask with ⟨rfl, rfl⟩ | htask
    · rcases List.mem_append.mp (inserted_append history _ ▸ hworkflow) with hworkflow | hworkflow
      · exact .inl ⟨⟨call, history, .ask action next⟩, by simp, hworkflow⟩
      · exact .inr ⟨rfl, Store.apart_of_inserted hanswer hworkflow⟩
    · exact .inl ⟨task, htask, hworkflow⟩

structure Accounted (s : System Call α) : Prop where
  stored : ∀ i workflow, s.Inserts i workflow → workflow.identity ∈ s.store.identities
  once : ∀ i j v w, s.Inserts i v → s.Inserts j w → v.identity = w.identity → i = j

theorem accounted_nil (store : Store) : (⟨store, []⟩ : System Call α).Accounted :=
  ⟨fun _ _ ⟨_, htask, _⟩ => (nomatch htask), fun _ _ _ _ ⟨_, htask, _⟩ => (nomatch htask)⟩

theorem Accounted.step (h : s.Accounted) (hgrows : s.store.Grows t.store)
    (hstep : FairStep routine s t) : t.Accounted := by
  obtain ⟨inserter, hinserts⟩ := hstep.exists_inserter
  refine ⟨fun i workflow hworkflow => ?_, fun i j v w hv hw heq => ?_⟩
  · rcases hinserts i workflow hworkflow with hold | ⟨_, hnew, _⟩
    · exact hgrows.identities.subset (h.stored i workflow hold)
    · exact hnew
  · rcases hinserts i v hv with hv | ⟨rfl, _, hapart⟩ <;>
      rcases hinserts j w hw with hw | ⟨rfl, _, hapart'⟩
    · exact h.once i j v w hv hw heq
    -- a workflow stored in this step has no id that was there before
    · exact absurd (congrArg Identity.id heq) (hapart' v.identity (h.stored i v hv)).id
    · exact absurd (congrArg Identity.id heq.symm) (hapart w.identity (h.stored j w hw)).id
    · rfl

structure Secured (post : Nat → Call → Store × List Exchange → α → Prop) (s : System Call α) :
    Prop where
  sound : s.store.Sound
  task : ∀ i task, s.tasks[i]? = some task →
    Store.amid.Secures (post i task.call) (s.store, task.history) task.rest

variable {post : Nat → Call → Store × List Exchange → α → Prop} {started : Nat}

section Steps

variable (hstable : ∀ i call a b value, Store.amid.others a b → post i call a value →
  post i call b value)
  (hroutine : ∀ i call store, started ≤ i → store.Sound →
    Store.amid.Secures (post i call) (store, []) (routine call))

include hstable hroutine

theorem Secured.step (hstarted : started ≤ s.tasks.length) (h : s.Secured post)
    (hstep : FairStep routine s t) :
    t.Secured post ∧ s.store.Grows t.store ∧ started ≤ t.tasks.length := by
  cases hstep with
  | start store tasks call =>
    refine ⟨⟨h.sound, fun i task htask => ?_⟩,
      .refl h.sound, by simpa using Nat.le_succ_of_le hstarted⟩
    rcases getElem?_start htask with htask | ⟨rfl, rfl⟩
    · exact h.task i task htask
    · exact hroutine tasks.length call store hstarted h.sound
  | @answer store store' call history action answer next before after hanswer hfair =>
    have hasked := h.task before.length ⟨call, history, .ask action next⟩ (by simp)
    obtain ⟨hkeeps, hnext⟩ := hasked (store, history) ⟨.refl h.sound, rfl⟩
    have hgrows := Store.grows_of_answers hkeeps h.sound hanswer
    refine ⟨⟨hgrows.sound, fun i task htask => ?_⟩, hgrows, by simpa using hstarted⟩
    rcases getElem?_answer htask with ⟨rfl, rfl⟩ | htask
    · exact hnext answer (store', history ++ [⟨action, answer⟩]) ⟨hanswer, hfair, rfl⟩
    -- for the other tasks the answer is a change that others made
    · refine (h.task i task htask).stable ?_ (fun hothers => hstable i task.call _ _ _ hothers)
        ⟨hgrows, rfl⟩
      exact fun hab hbc => ⟨hab.1.trans hbc.1, hbc.2.trans hab.2⟩

theorem Secured.run (hstarted : started ≤ s.tasks.length) (h : s.Secured post)
    (hrun : Relation.ReflTransGen (FairStep routine) s t) :
    t.Secured post ∧ s.store.Grows t.store ∧ started ≤ t.tasks.length := by
  induction hrun with
  | refl => exact ⟨h, .refl h.sound, hstarted⟩
  | tail _ hstep ih =>
    obtain ⟨hkept, hgrows, hlength⟩ := ih
    obtain ⟨hkept, hgrows', hlength⟩ := hkept.step hstable hroutine hlength hstep
    exact ⟨hkept, hgrows.trans hgrows', hlength⟩

theorem Secured.accounted (hstarted : started ≤ s.tasks.length) (h : s.Secured post)
    (haccounted : s.Accounted) (hrun : Relation.ReflTransGen (FairStep routine) s t) :
    t.Accounted := by
  induction hrun with
  | refl => exact haccounted
  | tail hbefore hstep ih =>
    obtain ⟨hkept, _, hlength⟩ := h.run hstable hroutine hstarted hbefore
    exact ih.step (hkept.step hstable hroutine hlength hstep).2.1 hstep

end Steps

end System

end Flowplan
