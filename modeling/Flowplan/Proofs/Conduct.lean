import Flowplan.Program

namespace Flowplan

/-- What surrounds a program: how it is answered, what others change
between two requests, and what it may ask for. -/
structure Surroundings {Request : Type} (Answer : Request → Type) (σ : Type) where
  answers : σ → (request : Request) → Answer request → σ → Prop
  others : σ → σ → Prop
  allowed : σ → Request → Prop

namespace Surroundings

variable {Request : Type} {Answer : Request → Type} {σ ε α β : Type} {w : Surroundings Answer σ}
  {s : σ}

/-- Whatever happens around it, a program asks only for what it may,
and its result has a property. -/
def Secures (w : Surroundings Answer σ) (post : σ → α → Prop) : σ → Program Answer α → Prop
  | s, .done value => post s value
  | s, .ask request next => ∀ t, w.others s t → w.allowed t request ∧
      ∀ answer u, w.answers t request answer u → w.Secures post u (next answer)

theorem secures_bind {post : σ → β → Prop} {program : Program Answer α}
    {next : α → Program Answer β} :
    w.Secures post s (program >>= next) ↔
      w.Secures (fun s value => w.Secures post s (next value)) s program := by
  induction program generalizing s with
  | done value => rfl
  | ask request rest ih =>
    refine forall₂_congr fun t _ => and_congr_right fun _ => ?_
    exact forall₃_congr fun answer u _ => ih answer

theorem secures_map {post : σ → β → Prop} {program : Program Answer α} {f : α → β} :
    w.Secures post s (f <$> program) ↔ w.Secures (fun s value => post s (f value)) s program :=
  secures_bind

theorem Secures.imp {post post' : σ → α → Prop} {program : Program Answer α}
    (h : w.Secures post s program) (hpost : ∀ s value, post s value → post' s value) :
    w.Secures post' s program := by
  induction program generalizing s with
  | done value => exact hpost s value h
  | ask request rest ih =>
    intro t ht
    exact ⟨(h t ht).1, fun answer u hu => ih answer ((h t ht).2 answer u hu)⟩

section Failing

variable {post : σ → Except ε β → Prop}

theorem secures_run_bind {procedure : ExceptT ε (Program Answer) α}
    {next : α → ExceptT ε (Program Answer) β} {middle : σ → Except ε α → Prop}
    (h : w.Secures middle s procedure.run)
    (hnext : ∀ s value, middle s (.ok value) → w.Secures post s (next value).run)
    (herror : ∀ s failure, middle s (.error failure) → post s (.error failure)) :
    w.Secures post s (procedure >>= next).run := by
  rw [ExceptT.run_bind, secures_bind]
  refine h.imp fun s outcome houtcome => ?_
  cases outcome with
  | ok value => exact hnext s value houtcome
  | error failure => exact herror s failure houtcome

theorem secures_lift_bind {program : Program Answer α} {next : α → ExceptT ε (Program Answer) β} :
    w.Secures post s (ExceptT.lift program >>= next).run ↔
      w.Secures (fun s value => w.Secures post s (next value).run) s program := by
  rw [ExceptT.run_bind_lift, secures_bind]

end Failing

theorem Secures.stable {post : σ → α → Prop} {program : Program Answer α} {t : σ}
    (htrans : ∀ {a b c}, w.others a b → w.others b c → w.others a c)
    (hpost : ∀ {a b value}, w.others a b → post a value → post b value)
    (h : w.Secures post s program) (hothers : w.others s t) : w.Secures post t program := by
  cases program with
  | done value => exact hpost hothers h
  | ask request rest => exact fun u hu => h u (htrans hothers hu)

theorem Secures.of_run {τ : Type} {handle : (request : Request) → τ → Answer request × τ}
    (view : τ → σ) {post : σ → α → Prop} {program : Program Answer α} {state : τ}
    (hothers : ∀ s, w.others s s)
    (hhandle : ∀ state request,
      w.answers (view state) request (handle request state).1 (view (handle request state).2))
      (h : w.Secures post (view state) program) :
    post (view (program.run handle state).2) (program.run handle state).1 := by
  induction program generalizing state with
  | done value => exact h
  | ask request next ih => exact ih _ ((h _ (hothers _)).2 _ _ (hhandle state request))

end Surroundings

namespace Program

variable {Request : Type} {Answer : Request → Type} {σ α : Type} {s t : σ}
  {program : Program Answer α}

/-- A program that begins in a state asks for something in another one. -/
inductive Asks (answers : σ → (request : Request) → Answer request → σ → Prop) :
    σ → Program Answer α → σ → Request → Prop
  | now (s request next) : Asks answers s (.ask request next) s request
  | later {s t u request request' next answer} : answers s request answer t →
    Asks answers t (next answer) u request' → Asks answers s (.ask request next) u request'

def asked (handle : (request : Request) → σ → Answer request × σ) :
    Program Answer α → σ → List (σ × Request)
  | .done _, _ => []
  | .ask request next, s =>
    let (answer, t) := handle request s
    (s, request) :: (next answer).asked handle t

theorem asks_of_mem_asked {answers : σ → (request : Request) → Answer request → σ → Prop} {τ : Type}
    {handle : (request : Request) → τ → Answer request × τ} (view : τ → σ) {state state' : τ}
    {request : Request}
    (hhandle : ∀ state request,
      answers (view state) request (handle request state).1 (view (handle request state).2))
      (h : (state', request) ∈ program.asked handle state) :
      Asks answers (view state) program (view state') request := by
  induction program generalizing state with
  | done value => cases h
  | ask first next ih =>
    rcases List.mem_cons.mp h with heq | h
    · cases heq
      exact .now _ _ _
    · exact .later (hhandle state first) (ih _ h)

theorem allowed_of_asks {w : Surroundings Answer σ} {post : σ → α → Prop} {request : Request}
    (hothers : ∀ s, w.others s s) (hsecures : w.Secures post s program)
    (h : Asks w.answers s program t request) : w.allowed t request := by
  induction h with
  | now s request next => exact (hsecures s (hothers s)).1
  | later hanswer _ ih => exact ih ((hsecures _ (hothers _)).2 _ _ hanswer)

inductive Ends (answers : σ → (request : Request) → Answer request → σ → Prop) :
    σ → Program Answer α → σ → α → Prop
  | done (s value) : Ends answers s (.done value) s value
  | ask {s t u request next answer value} : answers s request answer t →
    Ends answers t (next answer) u value → Ends answers s (.ask request next) u value

theorem ends_run {answers : σ → (request : Request) → Answer request → σ → Prop}
    {handle : (request : Request) → σ → Answer request × σ}
    (hhandle : ∀ s request, answers s request (handle request s).1 (handle request s).2)
    (program : Program Answer α) (s : σ) :
    Ends answers s program (program.run handle s).2 (program.run handle s).1 := by
  induction program generalizing s with
  | done value => exact .done s value
  | ask request next ih => exact .ask (hhandle s request) (ih _ _)

theorem Ends.secured {w : Surroundings Answer σ} {post : σ → α → Prop} {value : α}
    (hothers : ∀ s, w.others s s) (hends : Ends w.answers s program t value)
    (h : w.Secures post s program) : post t value := by
  induction hends with
  | done s value => exact h
  | ask hanswer _ ih => exact ih ((h _ (hothers _)).2 _ _ hanswer)

end Program

end Flowplan
