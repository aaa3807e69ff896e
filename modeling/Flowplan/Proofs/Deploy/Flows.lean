import Flowplan.Proofs.Store.Identity
import Flowplan.Proofs.Signature.Path

/-!
# Flows on the engine

Which flows an engine holds after what was asked of it, and which it was last asked to hold. The
second is what the store knows: its workflows that are not deleted.
-/

namespace Flowplan

section Since

variable {α : Type} {begins ends : α → Prop} {history : List α}

/-- Something happened, and nothing after its last time ended it. -/
def Since (begins ends : α → Prop) (history : List α) : Prop :=
  ∃ before a after, history = before ++ a :: after ∧ begins a ∧ ∀ b ∈ after, ¬ ends b

theorem since_concat {a : α} :
    Since begins ends (history ++ [a]) ↔ begins a ∨ (¬ ends a ∧ Since begins ends history) := by
  constructor
  · rintro ⟨before, b, after, hhistory, hb, hafter⟩
    -- the beginning is the last event, or it lies before and the last event is no end
    rcases List.eq_nil_or_concat after with rfl | ⟨after, c, rfl⟩
    · obtain ⟨_, rfl⟩ : history = before ∧ a = b := by simpa using hhistory
      exact .inl hb
    · obtain ⟨rfl, rfl⟩ : history = before ++ b :: after ∧ a = c := by
        rw [List.concat_eq_append, ← List.cons_append, ← List.append_assoc] at hhistory
        simpa using List.append_inj' hhistory rfl
      exact .inr ⟨hafter a (by simp), before, b, after, rfl, hb,
        fun d hd => hafter d (by simp [hd])⟩
  · rintro (ha | ⟨ha, before, b, after, rfl, hb, hafter⟩)
    · exact ⟨history, a, [], rfl, ha, fun _ h => nomatch h⟩
    · refine ⟨before, b, after ++ [a], by simp, hb, fun d hd => ?_⟩
      rcases List.mem_append.mp hd with hd | hd
      · exact hafter d hd
      · exact List.mem_singleton.mp hd ▸ ha

theorem Since.imp {begins' ends' : α → Prop} (h : Since begins ends history)
    (hbegins : ∀ a ∈ history, begins a → begins' a) (hends : ∀ a ∈ history, ends' a → ends a) :
    Since begins' ends' history := by
  obtain ⟨before, a, after, rfl, ha, hafter⟩ := h
  exact ⟨before, a, after, rfl, hbegins a (by simp) ha,
    fun b hb hb' => hafter b hb (hends b (by simp [hb]) hb')⟩

end Since

namespace Exchange

def Creates (path : String) : Exchange → Prop
  | ⟨.engine (.createFlow flow), _⟩ => flow.path = path
  | _ => False

def Deletes (path : String) : Exchange → Prop
  | ⟨.engine (.deleteFlow path'), _⟩ => path' = path
  | _ => False

def accepted : Exchange → Bool
  | ⟨.engine _, .ok _⟩ => true
  | _ => false

end Exchange

/-- Whether the engine holds a flow: it accepted to set it up, and since then not to remove it. -/
def Holds (history : List Exchange) (path : String) : Prop :=
  Since (fun e => e.Creates path ∧ e.accepted = true) (fun e => e.Deletes path ∧
    e.accepted = true) history

/-- Whether the engine was asked to hold a flow, whatever it said. -/
def Wanted (history : List Exchange) (path : String) : Prop :=
  Since (Exchange.Creates path) (Exchange.Deletes path) history

namespace EngineCall

def pushed? : EngineCall → Option String
  | .createFlow flow => some flow.path
  | .updateFlow flow => some flow.path
  | _ => none

/-- A push that fits what the engine holds: it updates a flow that is
there or sets up one that is not. -/
def Fits (history : List Exchange) : EngineCall → Prop
  | .createFlow flow => ¬ Holds history flow.path
  | .updateFlow flow => Holds history flow.path
  | _ => True

/-- A push that fits what the engine was asked to hold. -/
def Follows (history : List Exchange) : EngineCall → Prop
  | .createFlow flow => ¬ Wanted history flow.path
  | .updateFlow flow => Wanted history flow.path
  | _ => True

variable {call : EngineCall} {history : List Exchange} {path : String}

theorem Follows.fits_iff (h : call.Follows history) (hpushed : call.pushed? = some path) :
    call.Fits history ↔ (Holds history path ↔ Wanted history path) := by
  cases call with
  | createFlow flow =>
    obtain rfl := Option.some.inj hpushed
    have hwanted : ¬ Wanted history flow.path := h
    simp [Fits, hwanted]
  | updateFlow flow =>
    obtain rfl := Option.some.inj hpushed
    have hwanted : Wanted history flow.path := h
    simp [Fits, hwanted]
  | _ => cases hpushed

end EngineCall

variable {history : List Exchange} {path : String}

theorem holds_iff_wanted (h : ∀ e ∈ history, e.Creates path ∨ e.Deletes path → e.accepted = true) :
    Holds history path ↔ Wanted history path := by
  constructor
  · exact fun hholds => hholds.imp (fun e _ he => he.1) fun e hmem he => ⟨he, h e hmem (.inr he)⟩
  · exact fun hwanted => hwanted.imp (fun e hmem he => ⟨he, h e hmem (.inl he)⟩) fun e _ he => he.1

theorem wanted_concat {e : Exchange} :
    Wanted (history ++ [e]) path ↔ e.Creates path ∨ (¬ e.Deletes path ∧ Wanted history path) :=
  since_concat

theorem not_wanted_nil : ¬ Wanted [] path := by
  rintro ⟨before, e, after, hhistory, _⟩
  simp at hhistory

end Flowplan
