/-!
# Programs

A program is a tree of requests: it is done, or it asks for something and goes
on with the answer. What answers the requests is left open, so one program
runs against a database, a simulation or a proof.
-/

namespace Flowplan

inductive Program {Request : Type} (Answer : Request → Type) (α : Type)
  | done (value : α)
  | ask (request : Request) (next : Answer request → Program Answer α)

namespace Program

variable {Request : Type} {Answer : Request → Type} {α β γ : Type}

def bind (program : Program Answer α) (f : α → Program Answer β) : Program Answer β :=
  match program with
  | .done value => f value
  | .ask request next => .ask request fun answer => (next answer).bind f

instance : Monad (Program Answer) where
  pure := .done
  bind := bind

def request (request : Request) : Program Answer (Answer request) := .ask request .done

@[simp] theorem bind_done (value : α) (f : α → Program Answer β) : (done value).bind f = f value :=
  rfl

@[simp] theorem bind_ask (request : Request) (next : Answer request → Program Answer α)
    (f : α → Program Answer β) :
    (ask request next).bind f = .ask request fun answer => (next answer).bind f := rfl

theorem bind_pure (program : Program Answer α) : program.bind .done = program := by
  induction program with
  | done value => rfl
  | ask request next ih => simp [ih]

theorem bind_assoc (program : Program Answer α) (f : α → Program Answer β)
    (g : β → Program Answer γ) :
    (program.bind f).bind g = program.bind fun value => (f value).bind g := by
  induction program with
  | done value => rfl
  | ask request next ih => simp [ih]

instance : LawfulMonad (Program Answer) :=
  LawfulMonad.mk' _ bind_pure (fun _ _ => rfl) bind_assoc

def run {σ : Type} (handle : (request : Request) → σ → Answer request × σ) :
    Program Answer α → σ → α × σ
  | .done value, state => (value, state)
  | .ask request next, state =>
    let (answer, state) := handle request state
    (next answer).run handle state

@[simp] theorem run_done {σ : Type} (handle : (request : Request) → σ → Answer request × σ)
    (value : α) (state : σ) : (done value : Program Answer α).run handle state = (value, state) :=
  rfl

theorem run_bind {σ : Type} (handle : (request : Request) → σ → Answer request × σ)
    (program : Program Answer α) (f : α → Program Answer β) (state : σ) :
    (program.bind f).run handle state =
      (f (program.run handle state).1).run handle (program.run handle state).2 := by
  induction program generalizing state with
  | done value => rfl
  | ask request next ih => simp [run, ih]

end Program

end Flowplan
