import Flowplan.Generation.Generator

namespace Flowplan.Generator

def handsIn (call : ToolCall) : Bool := call.tool == Tool.createWorkflow

inductive Verdict
  | silent
  | accepted (candidate : Candidate)
  | rejected (issues : List Issue)
  | exploring

def verdict (registry : Registry) (parts : List ResponsePart) : Verdict :=
  if (toolCalls parts).isEmpty then .silent
  else
    match (toolCalls parts).find? handsIn with
    | none => .exploring
    | some call =>
      match Candidate.read (.obj call.arguments) with
      | .bad faults => .rejected (faults.map faultIssue)
      | .good candidate =>
        if candidate.graph.isValid registry then .accepted candidate
        else .rejected ((candidate.graph.defects registry).map Defect.issue)

def isRejected (registry : Registry) (parts : List ResponsePart) : Bool :=
  match verdict registry parts with
  | .rejected _ => true
  | _ => false

def isExploring (registry : Registry) (parts : List ResponsePart) : Bool :=
  match verdict registry parts with
  | .exploring => true
  | _ => false

def ending (registry : Registry) (earlier : List (List ResponsePart)) (parts : List ResponsePart) :
    Option (Except GenerationFailure Candidate) :=
  match verdict registry parts with
  | .silent => some (.error .noToolCall)
  | .accepted candidate => some (.ok candidate)
  | .rejected issues =>
    if 2 ≤ earlier.countP (isRejected registry) then some (.error (.rejected issues)) else none
  | .exploring => none

variable {calls : List ToolCall} {call : ToolCall} {others : List ToolCall}

theorem takeCreation_eq_none (h : takeCreation calls = none) : calls.find? handsIn = none := by
  induction calls with
  | nil => rfl
  | cons first rest ih =>
    rw [takeCreation] at h
    split at h
    · cases h
    · next hfirst => simpa [handsIn, hfirst] using ih (Option.map_eq_none_iff.mp h)

theorem takeCreation_eq_some (h : takeCreation calls = some (call, others)) :
    calls.find? handsIn = some call ∧ (call :: others).Perm calls := by
  induction calls generalizing others with
  | nil => cases h
  | cons first rest ih =>
    rw [takeCreation] at h
    split at h
    · next hfirst =>
      cases h
      exact ⟨List.find?_cons_of_pos hfirst, .refl _⟩
    · next hfirst =>
      obtain ⟨⟨found, more⟩, htaken, heq⟩ := Option.map_eq_some_iff.mp h
      cases heq
      obtain ⟨hfind, hperm⟩ := ih htaken
      exact ⟨by simpa [handsIn, hfirst] using hfind,
        (List.Perm.swap first call more).trans (hperm.cons first)⟩

variable {registry : Registry} {parts : List ResponsePart}

theorem verdict_of_isEmpty (h : (toolCalls parts).isEmpty = true) :
    verdict registry parts = .silent := by
  rw [verdict, if_pos h]

theorem verdict_of_explores (h : (toolCalls parts).isEmpty = false)
    (htaken : takeCreation (toolCalls parts) = none) : verdict registry parts = .exploring := by
  rw [verdict, if_neg (by simp [h]), takeCreation_eq_none htaken]

theorem verdict_of_creation (h : takeCreation (toolCalls parts) = some (call, others)) :
    verdict registry parts = match candidate registry call with
      | .ok found => .accepted found
      | .error issues => .rejected issues := by
  obtain ⟨hfind, _⟩ := takeCreation_eq_some h
  have hcalls : ¬ (toolCalls parts).isEmpty = true := by
    intro hempty
    rw [List.isEmpty_iff.mp hempty] at hfind
    cases hfind
  rw [verdict, if_neg hcalls, hfind, candidate]
  cases hread : Candidate.read (.obj call.arguments) with
  | bad faults => simp only [hread]
  | good found =>
    by_cases hvalid : (found.graph.defects registry).isEmpty = true
    · simp [hread, Graph.isValid, hvalid]
    · simp [hread, Graph.isValid, hvalid]

theorem isRejected_eq_false (h : ∀ issues, verdict registry parts ≠ .rejected issues) :
    isRejected registry parts = false := by
  rw [isRejected]
  split
  · next issues hverdict => exact absurd hverdict (h issues)
  · rfl

theorem isRejected_eq_true {issues : List Issue} (h : verdict registry parts = .rejected issues) :
    isRejected registry parts = true := by
  rw [isRejected, h]

theorem ending_filter_isExploring (registry : Registry) (earlier : List (List ResponsePart))
    (parts : List ResponsePart) :
    ending registry (earlier.filter (!isExploring registry ·)) parts =
      ending registry earlier parts := by
  have hboth : ∀ p, (isRejected registry p && !isExploring registry p) = isRejected registry p := by
    intro p
    rw [isRejected, isExploring]
    cases verdict registry p <;> rfl
  simp only [ending, List.countP_filter, hboth]

end Flowplan.Generator
