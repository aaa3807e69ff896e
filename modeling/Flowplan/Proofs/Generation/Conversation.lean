import Flowplan.Proofs.Conduct
import Flowplan.Proofs.Generation.Verdict

/-!
# Conversations of the generator

What the generator asks for while it talks to a model, and how the
conversation ends, whatever the model says.
-/

namespace Flowplan

def RequestPart.answered? : RequestPart → Option (String × String)
  | .answer _ tool callId _ => some (tool, callId)
  | _ => none

def AnswerAll (calls : List ToolCall) (parts : List RequestPart) : Prop :=
  (parts.map RequestPart.answered?).Perm (calls.map fun call => some (call.tool, call.id))

/-- Messages in which a request stands first and each response is
followed by a request that answers its calls. -/
inductive Dialogue : List (List ResponsePart) → List Message → Prop
  | opening (parts) : Dialogue [] [.request parts]
  | turn {replies messages parts answers} : Dialogue replies messages →
      AnswerAll (toolCalls parts) answers →
    Dialogue (replies ++ [parts]) (messages ++ [.response parts, .request answers])

namespace Generator

abbrev Replies := List (List ResponsePart)

inductive Hears (utters : Replies → Except String (List ResponsePart) → Prop) :
    Replies → (action : Action) → action.Answer → Replies → Prop
  | spoke {s} (messages parts) : utters s (.ok parts) →
      Hears utters s (.askModel messages) (.ok parts) (s ++ [parts])
  | lost {s message} (messages) : utters s (.error message) →
      Hears utters s (.askModel messages) (.error message) s
  | consulted (s query answer) : Hears utters s (.consult query) answer s
  | reported (s entry) : Hears utters s (.report entry) () s
  | traced (s kind prompt response metadata) :
      Hears utters s (.trace kind prompt response metadata) () s

/-- The model gets whole dialogues, and a directory is only consulted
where no workflow was handed in. -/
def Proper (s : Replies) : Action → Prop
  | .askModel messages => Dialogue s messages
  | .consult _ => ∃ parts, s.getLast? = some parts ∧ (toolCalls parts).find? handsIn = none
  | _ => True

def spoken (utters : Replies → Except String (List ResponsePart) → Prop) :
    Surroundings Action.Answer Replies where
  answers := Hears utters
  others s t := s = t
  allowed := Proper

/-- How a conversation with some turns to go ends, from what was said
before to what was said in the end. -/
inductive Concludes (registry : Registry)
    (utters : Replies → Except String (List ResponsePart) → Prop) :
    Nat → Replies → Replies → Except GenerationFailure Candidate → Prop
  | usedUp (s) : Concludes registry utters 0 s s (.error .turnsUsedUp)
  | lost {left s message} : utters s (.error message) →
    Concludes registry utters (left + 1) s s (.error (.model message))
  | ends {left s parts outcome} : utters s (.ok parts) → ending registry s parts = some outcome →
    Concludes registry utters (left + 1) s (s ++ [parts]) outcome
  | goesOn {left s t parts outcome} : utters s (.ok parts) → ending registry s parts = none →
    Concludes registry utters left (s ++ [parts]) t outcome →
    Concludes registry utters (left + 1) s t outcome

variable {α β : Type} {utters : Replies → Except String (List ResponsePart) → Prop} {s t : Replies}
  {c : Context} {parts : List ResponsePart} {post : Replies → β → Prop}

theorem spoken_report_bind {entry : LogEntry} {next : Unit → Routine β}
    (h : (spoken utters).Secures post s (next ())) :
    (spoken utters).Secures post s (send (.report entry) >>= next) := by
  rintro _ rfl
  refine ⟨trivial, fun answer t hanswer => ?_⟩
  cases hanswer
  exact h

theorem spoken_reports_bind (entries : List LogEntry) {next : Unit → Routine β}
    (h : (spoken utters).Secures post s (next ())) :
    (spoken utters).Secures post s
      ((entries.forM fun entry => (send (.report entry) : Routine Unit)) >>= next) := by
  induction entries with
  | nil => exact h
  | cons entry entries ih => exact spoken_report_bind ih

theorem secures_discover (hlast : s.getLast? = some parts)
    (hnone : (toolCalls parts).find? handsIn = none) (call : ToolCall) :
    (spoken utters).Secures (fun t part => t = s ∧ part.answered? = some (call.tool, call.id)) s
      (discover c call) := by
  rw [discover]
  split
  · exact ⟨rfl, rfl⟩
  · next query _ =>
    rintro _ rfl
    refine ⟨⟨parts, hlast, hnone⟩, fun answer t hanswer => ?_⟩
    cases hanswer
    cases answer with
    | ok value => exact spoken_reports_bind _ ⟨rfl, rfl⟩
    | error trouble => exact spoken_report_bind ⟨rfl, rfl⟩

theorem secures_discoverAll (hlast : s.getLast? = some parts)
    (hnone : (toolCalls parts).find? handsIn = none) (calls : List ToolCall) :
    (spoken utters).Secures (fun t answers => t = s ∧
      answers.map RequestPart.answered? = calls.map fun call => some (call.tool, call.id)) s
      (calls.mapM (discover c)) := by
  induction calls with
  | nil => exact ⟨rfl, rfl⟩
  | cons call calls ih =>
    rw [List.mapM_cons, Surroundings.secures_bind]
    refine (secures_discover hlast hnone call).imp ?_
    rintro _ part ⟨rfl, hpart⟩
    rw [Surroundings.secures_bind]
    refine ih.imp ?_
    rintro _ answers ⟨rfl, hanswers⟩
    exact ⟨rfl, by simp [hpart, hanswers]⟩

inductive Listened (utters : Replies → Except String (List ResponsePart) → Prop) (s : Replies) :
    Replies → Except GenerationFailure (List ResponsePart) → Prop
  | lost {message} : utters s (.error message) → Listened utters s s (.error (.model message))
  | silent {parts : List ResponsePart} : utters s (.ok parts) → (toolCalls parts).isEmpty = true →
    Listened utters s (s ++ [parts]) (.error .noToolCall)
  | spoke {parts : List ResponsePart} : utters s (.ok parts) → (toolCalls parts).isEmpty = false →
    Listened utters s (s ++ [parts]) (.ok parts)

theorem secures_listen {session : Session} (hmessages : Dialogue s session.messages) :
    (spoken utters).Secures (Listened utters s) s (listen session).run := by
  rintro _ rfl
  refine ⟨hmessages, fun answer t hanswer => ?_⟩
  cases hanswer with
  | lost _ hutters => exact .lost hutters
  | spoke _ parts hutters =>
    rintro _ rfl
    refine ⟨trivial, fun answer t hanswer => ?_⟩
    cases hanswer
    dsimp only
    split
    · next hempty => exact .silent hutters hempty
    · next hcalls =>
      rintro _ rfl
      refine ⟨trivial, fun answer t hanswer => ?_⟩
      cases hanswer
      exact .spoke hutters (by simpa using hcalls)

def Resolved (registry : Registry) (s : Replies) (parts : List ResponsePart) (t : Replies) :
    Except GenerationFailure (Candidate ⊕ List RequestPart × Nat) → Prop
  | .ok (.inl found) => t = s ++ [parts] ∧ ending registry s parts = some (.ok found)
  | .ok (.inr (answers, rejections)) => t = s ++ [parts] ∧ ending registry s parts = none ∧
      AnswerAll (toolCalls parts) answers ∧ rejections = (s ++ [parts]).countP (isRejected registry)
  | .error failure => t = s ++ [parts] ∧ ending registry s parts = some (.error failure)

theorem secures_reject {rejections : Nat} {issues : List Issue} :
    (spoken utters).Secures (fun t outcome => t = s ∧
      match outcome with
      | .ok () => ¬ maxRejections < rejections
      | .error failure => maxRejections < rejections ∧ failure = .rejected issues) s
    (reject rejections issues).run := by
  rintro _ rfl
  refine ⟨trivial, fun answer t hanswer => ?_⟩
  cases hanswer
  dsimp only
  split
  · next hmany => exact ⟨rfl, hmany, rfl⟩
  · next hfew => exact ⟨rfl, hfew⟩

theorem answerAll_creation {call : ToolCall} {others : List ToolCall} (content : String)
    (htaken : takeCreation (toolCalls parts) = some (call, others)) :
    AnswerAll (toolCalls parts) (.retry call content :: others.map notExecuted) := by
  have hanswers : (RequestPart.retry call content :: others.map notExecuted).map
      RequestPart.answered? = (call :: others).map fun call => some (call.tool, call.id) := by
    simp [RequestPart.retry, RequestPart.answered?, notExecuted, RequestPart.result]
  rw [AnswerAll, hanswers]
  exact (takeCreation_eq_some htaken).2.map _

theorem secures_resolve {session : Session}
    (hrejections : session.rejections = s.countP (isRejected c.registry))
    (hcalls : (toolCalls parts).isEmpty = false) :
    (spoken utters).Secures (Resolved c.registry s parts)
      (s ++ [parts]) (resolve c session (toolCalls parts)).run := by
  rw [resolve]
  split
  · next htaken =>
    have hverdict : verdict c.registry parts = .exploring := verdict_of_explores hcalls htaken
    refine Surroundings.secures_lift_bind.mpr
      ((secures_discoverAll (by simp) (takeCreation_eq_none htaken) _).imp ?_)
    rintro _ answers ⟨rfl, hanswers⟩
    refine ⟨rfl, by rw [ending, hverdict], by rw [AnswerAll, hanswers], ?_⟩
    rw [hrejections, List.countP_append, List.countP_singleton,
      isRejected_eq_false fun _ h => by simp [hverdict] at h]
    rfl
  · next call others htaken =>
    have hverdict : verdict c.registry parts = _ := verdict_of_creation htaken
    cases hcandidate : candidate c.registry call with
    | ok found =>
      rw [hcandidate] at hverdict
      exact ⟨rfl, by rw [ending, hverdict]⟩
    | error issues =>
      rw [hcandidate] at hverdict
      refine Surroundings.secures_run_bind secures_reject ?_ ?_
      · rintro _ _ ⟨rfl, hfew⟩
        have hcount : ¬ 2 ≤ s.countP (isRejected c.registry) := by
          rw [maxRejections] at hfew
          omega
        refine ⟨rfl, by rw [ending, hverdict]; exact if_neg hcount, answerAll_creation _ htaken, ?_⟩
        rw [hrejections, List.countP_append, List.countP_singleton, isRejected_eq_true hverdict]
        rfl
      · rintro _ _ ⟨rfl, hmany, rfl⟩
        have hcount : 2 ≤ s.countP (isRejected c.registry) := by
          rw [maxRejections] at hmany
          omega
        exact ⟨rfl, by rw [ending, hverdict]; exact if_pos hcount⟩

theorem secures_converse {left : Nat} {session : Session} (hmessages : Dialogue s session.messages)
    (hrejections : session.rejections = s.countP (isRejected c.registry)) :
    (spoken utters).Secures
      (fun t outcome => Concludes c.registry utters left s t (outcome.map (·.1))) s
        (converse c left session).run := by
  -- on the turns to go; the session keeps a dialogue and the number
  -- of rejected turns of what was said
  induction left generalizing s session with
  | zero => exact .usedUp s
  | succ left ih =>
    rw [converse]
    refine Surroundings.secures_run_bind (secures_listen hmessages) ?_ ?_
    · rintro _ parts (⟨⟩ | ⟨⟩ | ⟨hutters, hcalls⟩)
      refine Surroundings.secures_run_bind (secures_resolve hrejections hcalls) ?_ ?_
      · rintro t (found | ⟨answers, rejections⟩) hresolved
        · obtain ⟨rfl, hending⟩ := hresolved
          exact .ends hutters hending
        · obtain ⟨rfl, hending, hanswers, hrejections'⟩ := hresolved
          refine (ih (.turn hmessages hanswers) hrejections').imp fun t outcome hconcludes => ?_
          exact .goesOn hutters hending hconcludes
      · rintro t failure ⟨rfl, hending⟩
        exact .ends hutters hending
    · rintro t failure hlistened
      cases hlistened with
      | lost hutters => exact .lost hutters
      | @silent parts hutters hempty =>
        have hending : ending c.registry s parts = some (.error .noToolCall) := by
          rw [ending, verdict_of_isEmpty hempty]
        exact .ends hutters hending

theorem secures_generate (c : Context) (hints : Option Hints) (style : Option Style) :
    (spoken utters).Secures (Concludes c.registry utters maxTurns []) []
      (generate c hints style).run := by
  refine Surroundings.secures_run_bind (secures_converse (.opening _) rfl) ?_
    fun _ _ hconcludes => hconcludes
  rintro t ⟨found, session⟩ hconcludes
  exact spoken_report_bind hconcludes

/-- In every conversation, whatever the model says and the directory answers: what the model gets
is a dialogue in which each of its calls is answered once, and the directory is not consulted
after a response that hands in a workflow. -/
theorem proper_of_asks {hints : Option Hints} {style : Option Style} {action : Action}
    (h : Program.Asks (Hears fun _ _ => True) [] (generate c hints style).run s action) :
    (∀ messages, action = .askModel messages → Dialogue s messages) ∧
    ∀ query, action = .consult query →
      ∃ parts, s.getLast? = some parts ∧ ∀ call ∈ toolCalls parts,
        call.tool ≠ Tool.createWorkflow := by
  have hproper : Proper s action :=
    Program.allowed_of_asks (w := spoken fun _ _ => True) (fun _ => rfl)
      (secures_generate c hints style) h
  constructor
  · rintro messages rfl
    exact hproper
  · rintro query rfl
    obtain ⟨parts, hlast, hnone⟩ := hproper
    refine ⟨parts, hlast, fun call hcall htool => ?_⟩
    exact List.find?_eq_none.mp hnone call hcall (beq_iff_eq.mpr htool)

section Hasty

def shop : Context := ⟨"a shop", ⟨[]⟩, true⟩

def looking : List ResponsePart := [.call ⟨Tool.listServices, .null, "look"⟩]

def hasty : List ResponsePart :=
  [.call ⟨Tool.createWorkflow, .null, "try"⟩, .text "or else",
    .call ⟨Tool.createWorkflow, .null, "retry"⟩]

theorem consults_of_looking :
    Program.Asks (Hears fun _ _ => True) [] (generate shop none none).run
      [looking] (.consult .services) := by
  refine .later (.spoke _ looking trivial) ?_
  refine .later (.traced ..) ?_
  refine .later (.reported ..) ?_
  exact .now ..

theorem asks_of_hasty :
    ∃ messages, Program.Asks (Hears fun _ _ => True) [] (generate shop none none).run
    [looking, hasty] (.askModel messages) ∧ messages.length = 5 := by
  constructor
  constructor
  · refine .later (.spoke _ looking trivial) ?_
    refine .later (.traced ..) ?_
    refine .later (.reported ..) ?_
    refine .later (.consulted _ _ (.ok .null)) ?_
    refine .later (.spoke _ hasty trivial) ?_
    refine .later (.traced ..) ?_
    refine .later (.reported ..) ?_
    refine .later (.reported ..) ?_
    exact .now ..
  · rfl

/-- A dialogue in which both workflows are refused, and the query before it. -/
theorem proper_of_hasty :
    (∃ messages, Program.Asks (Hears fun _ _ => True) [] (generate shop none none).run
      [looking, hasty] (.askModel messages) ∧ messages.length = 5 ∧
      Dialogue [looking, hasty] messages) ∧
    Program.Asks (Hears fun _ _ => True) [] (generate shop none none).run
      [looking] (.consult .services) ∧
    ∃ parts, [looking].getLast? = some parts ∧ ∀ call ∈ toolCalls parts,
      call.tool ≠ Tool.createWorkflow := by
  obtain ⟨messages, hmodel, hfive⟩ := asks_of_hasty
  exact ⟨⟨messages, hmodel, hfive, (proper_of_asks hmodel).1 messages rfl⟩, consults_of_looking,
    (proper_of_asks consults_of_looking).2 .services rfl⟩

end Hasty

end Generator

end Flowplan
