import Flowplan.Proofs.Generation.Conversation

namespace Flowplan.Generator

variable {τ : Type} {registry : Registry} {script : Nat → List ResponsePart} {left : Nat}
  {s t : Replies} {outcome : Except GenerationFailure Candidate}

def recite (script : Nat → List ResponsePart)
    (consult : Directory.Query → τ → Except Directory.Trouble Json × τ) :
    (action : Action) → Replies × τ → action.Answer × (Replies × τ)
  | .askModel _, (replies, state) =>
    (.ok (script replies.length), replies ++ [script replies.length], state)
  | .consult query, (replies, state) =>
    let (answer, state) := consult query state
    (answer, replies, state)
  | .report _, state => ((), state)
  | .trace .., state => ((), state)

def endingAt (registry : Registry) (script : Nat → List ResponsePart) (n : Nat) :
    Option (Except GenerationFailure Candidate) :=
  ending registry ((List.range n).map script) (script n)

/-- How a generation ends against a script, and after how many
responses: with the first response that ends it. -/
def expected (registry : Registry) (script : Nat → List ResponsePart) :
    Except GenerationFailure Candidate × Nat :=
  ((List.range 10).findSome? fun n => (endingAt registry script n).map (·, n + 1)).getD
    (.error .turnsUsedUp, 10)

def Recites (script : Nat → List ResponsePart) (s : Replies)
    (answer : Except String (List ResponsePart)) : Prop := answer = .ok (script s.length)

theorem hears_recite (consult : Directory.Query → τ → Except Directory.Trouble Json × τ)
    (state : Replies × τ) (action : Action) :
    Hears (Recites script) state.1 action (recite script consult action state).1
      (recite script consult action state).2.1 := by
  cases action with
  | askModel messages => exact .spoke messages _ rfl
  | consult query => exact .consulted state.1 query _
  | report entry => exact .reported state.1 entry
  | trace kind prompt response metadata => exact .traced state.1 kind prompt response metadata

theorem Concludes.length_le {utters : Replies → Except String (List ResponsePart) → Prop}
    (h : Concludes registry utters left s t outcome) : t.length ≤ s.length + left := by
  induction h with
  | usedUp s => exact Nat.le_refl _
  | lost hutters => exact Nat.le_add_right _ _
  | ends hutters hending => simp
  | goesOn hutters hending _ ih =>
    simp only [List.length_append, List.length_singleton] at ih
    omega

theorem Concludes.eq_expected (h : Concludes registry (Recites script) left s t outcome)
    (hs : s = (List.range s.length).map script) : (outcome, t.length) =
      ((List.range' s.length left).findSome? fun n => (endingAt registry script n).map
        (·, n + 1)).getD (.error .turnsUsedUp, s.length + left) := by
  -- what was said is the script so far, so each response is the next one of the script
  induction h with
  | usedUp s => rfl
  | lost hutters => cases hutters
  | @ends left s parts outcome hutters hending =>
    obtain rfl : parts = script s.length := Except.ok.inj hutters
    have hat : endingAt registry script s.length = some outcome := by rw [endingAt, ← hs, hending]
    simp [List.range'_succ, hat]
  | @goesOn left s t parts outcome hutters hending _ ih =>
    obtain rfl : parts = script s.length := Except.ok.inj hutters
    have hat : endingAt registry script s.length = none := by rw [endingAt, ← hs, hending]
    have hnext := ih (by simp [List.range_succ, ← hs])
    rw [hnext, List.length_append, List.length_singleton, List.range'_succ, List.findSome?_cons,
      hat, Nat.add_assoc, Nat.add_comm 1]
    rfl

/-- The law of the budgets, for every script of the model and every directory: a generation ends as
the first response that ends it says, after ten responses at the latest, and turns that only
consult the directory do not count against what is handed in. -/
theorem generate_eq_expected (c : Context) (hints : Option Hints) (style : Option Style)
    (script : Nat → List ResponsePart)
    (consult : Directory.Query → τ → Except Directory.Trouble Json × τ) (state : τ) :
    let final := (generate c hints style).run.run (recite script consult) ([], state)
    (final.1, final.2.1.length) = expected c.registry script ∧ final.2.1.length ≤ 10 ∧
      ∀ earlier parts, ending c.registry (earlier.filter (!isExploring c.registry ·)) parts =
        ending c.registry earlier parts := by
  intro final
  have hconcludes : Concludes c.registry (Recites script) maxTurns [] final.2.1 final.1 :=
    (secures_generate c hints style).of_run Prod.fst (fun _ => rfl) (hears_recite consult)
  refine ⟨?_, hconcludes.length_le, ending_filter_isExploring c.registry⟩
  rw [expected, List.range_eq_range']
  exact hconcludes.eq_expected rfl

end Flowplan.Generator
