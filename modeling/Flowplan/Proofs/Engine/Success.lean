import Flowplan.Proofs.Deploy.Paths
import Flowplan.Proofs.Engine.Reply
import Flowplan.Run.Service

namespace Flowplan

section Accepted

variable (client : Http.Client) (workspace : String)

def Accepted (history : List Exchange) (call : EngineCall) (reply : call.Reply) : Prop :=
  ⟨.engine call, .ok reply⟩ ∈ history ∧
    ∃ response, call.perform client workspace (.ok response) = .ok reply ∧ call.Takes response

def Pushed (history : List Exchange) (workflow : Workflow) : Prop :=
  ∃ flow, workflow.path? = some flow.path ∧
    ((∃ reply, Accepted client workspace history (.createFlow flow) reply) ∨
      ∃ reply, Accepted client workspace history (.updateFlow flow) reply)

/-- Each request to the engine has an outcome. A run is stored only
with the job that the engine started for it. -/
def answering : Contract where
  may history action := match action with
    | .insertRun _ _ jobId =>
      ∃ path args job, jobId = some job ∧ Accepted client workspace history (.runFlow path args) job
    | _ => True
  expects action answer := match action, answer with
    | .engine call, reply => ∃ outcome, reply = call.perform client workspace outcome
    | _, _ => True

end Accepted

variable {client : Http.Client} {workspace : String} {history : List Exchange} {workflow : Workflow}

theorem Accepted.append {call : EngineCall} {reply : call.Reply}
    (h : Accepted client workspace history call reply) (more : List Exchange) :
    Accepted client workspace (history ++ more) call reply := ⟨List.mem_append_left more h.1, h.2⟩

theorem Pushed.append (h : Pushed client workspace history workflow) (more : List Exchange) :
    Pushed client workspace (history ++ more) workflow := by
  obtain ⟨flow, hpath, hpush⟩ := h
  exact ⟨flow, hpath, hpush.imp (fun ⟨reply, h⟩ => ⟨reply, h.append more⟩) fun ⟨reply, h⟩ => ⟨reply,
      h.append more⟩⟩

theorem accepted_of_expects {call : EngineCall} {reply : call.Reply} (hcall : call ≠ .checkHealth)
    (h : (answering client workspace).expects (.engine call) (.ok reply)) :
    Accepted client workspace (history ++ [⟨.engine call, .ok reply⟩]) call reply := by
  obtain ⟨outcome, hreply⟩ := h
  obtain ⟨request, response, -, hreceive, htakes⟩ :=
    (EngineCall.exists_perform_iff hcall).mp ⟨reply, hreply.symm⟩
  obtain ⟨-, rfl⟩ := Http.Request.receive_eq_ok_iff.mp hreceive
  exact ⟨by simp, response, hreply.symm, htakes⟩

theorem eq_ok_of_separateFault {α : Type} {reply : Except Failure α} {value : α}
    (h : Procedure.separateFault reply = .ok (.ok value)) : reply = .ok value := by
  cases reply with
  | ok other => simpa [Procedure.separateFault] using h
  | error failure => cases failure <;> cases h

namespace Deployer

variable {c : Context} {request : DeployRequest} {signature : String}

theorem answering_of_keeps {α : Type} {procedure : Procedure α} (h : Keeps history procedure) :
    (answering client workspace).Ensures (fun _ _ => True) history procedure.run := by
  apply h.weaken
  · intro history action hmay
    cases action with
    | insertRun => cases hmay
    | _ => exact trivial
  · exact fun _ _ _ => trivial

def Settled (client : Http.Client) (workspace : String) (workflow : Workflow)
    (history : List Exchange) (result : Except Failure Bool) : Prop :=
  result = .ok true → Pushed client workspace history workflow

theorem settled_false : Settled client workspace workflow history (.ok false) :=
  nofun

theorem ensures_settlePush {path : String} {fault? : Option EngineFault}
    (hpushed : fault? = none → Pushed client workspace history workflow) :
    (answering client workspace).Ensures (Settled client workspace workflow) history
      (settlePush path fault?).run := by
  cases fault? with
  | none => exact fun _ => hpushed rfl
  | some fault => exact Contract.ensures_report_bind trivial settled_false

theorem ensures_pushed {call : EngineCall} {path : String} (hcall : call ≠ .checkHealth)
    (hpushed : ∀ history reply, Accepted client workspace history call reply →
      Pushed client workspace history workflow) :
    (answering client workspace).Ensures (Settled client workspace workflow) history
      (Procedure.tryCall call >>= fun outcome => settlePush path (push.failed outcome)).run := by
  refine Contract.ensures_tryCall_bind trivial (fun reply outcome hreply houtcome => ?_) fun _ _ =>
    nofun
  apply ensures_settlePush
  intro hnone
  cases outcome with
  | ok value =>
    obtain rfl := eq_ok_of_separateFault houtcome
    exact hpushed _ value (accepted_of_expects hcall hreply)
  | error fault => cases hnone

theorem ensures_push (plan : Plan) (create : Bool) : (answering client workspace).Ensures
    (Settled client workspace workflow) history (push c workflow plan create).run := by
  rw [push]
  split
  · next path hpath _ =>
    dsimp only
    split
    · rw [bind_map_left]
      exact ensures_pushed (by simp) fun history reply h => ⟨_, hpath, .inl ⟨reply, h⟩⟩
    · rw [bind_map_left]
      exact ensures_pushed (by simp) fun history reply h => ⟨_, hpath, .inr ⟨reply, h⟩⟩
  · exact settled_false

def Synced (client : Http.Client) (workspace : String) (history : List Exchange)
    (result : Except Failure Deployed) : Prop :=
  ∀ deployed, result = .ok deployed → deployed.synced = true →
    Pushed client workspace history deployed.workflow

theorem synced_error {failure : Failure} : Synced client workspace history (.error failure) := by
  intro deployed hdeployed
  cases hdeployed

theorem ensures_push_bind {plan : Plan} {create : Bool} {level : Level} {message : String}
    {data : Bool → Entries Json} {action : DeployAction} :
    (answering client workspace).Ensures (Synced client workspace) history (do
      let synced ← push c workflow plan create
      Procedure.report level component message (data synced)
      return ⟨workflow, action, synced⟩ : Procedure Deployed).run := by
  refine Contract.ensures_run_bind (ensures_push plan create) (fun history synced hpushed => ?_)
    fun _ _ _ => synced_error
  apply Contract.ensures_report_bind trivial
  intro deployed hdeployed hsynced
  cases hdeployed
  exact (hpushed (congrArg Except.ok hsynced)).append _

theorem ensures_update (existing : Workflow) :
    (answering client workspace).Ensures (Synced client workspace) history
      (update c request existing).run := by
  rw [update]
  refine Contract.ensures_run_bind (answering_of_keeps (reads_compile _ _).keeps)
    (fun history plan _ => ?_) fun _ _ _ => synced_error
  refine ⟨trivial, fun answer _ => ?_⟩
  cases answer with
  | ok workflow => exact ensures_push_bind
  | error failure => exact synced_error

theorem ensures_insert (attempts : Nat) :
    (answering client workspace).Ensures (Synced client workspace) history
      (insert c request signature attempts).run := by
  induction attempts generalizing history with
  | zero => exact synced_error
  | succ attempts ih =>
    rw [insert]
    have hname : Keeps history (chooseName request signature) :=
      ensures_chooseName.imp fun _ _ _ => trivial
    refine Contract.ensures_run_bind (answering_of_keeps hname) (fun history name _ => ?_)
      fun _ _ _ => synced_error
    refine Contract.ensures_run_bind (answering_of_keeps (reads_compile _ _).keeps)
      (fun history plan _ => ?_) fun _ _ _ => synced_error
    refine Contract.ensures_ask_bind trivial fun outcome _ => ?_
    split
    · exact ensures_push_bind
    · refine Contract.ensures_ask_bind trivial fun winner _ => ?_
      split
      · exact Contract.ensures_report_bind trivial (ensures_update _)
      · exact Contract.ensures_report_bind trivial ih
    · exact synced_error

theorem ensures_deploy :
    (answering client workspace).Ensures (Synced client workspace) history
      (deploy c request).run := by
  rw [deploy]
  dsimp only
  split
  · exact synced_error
  · refine Contract.ensures_ask_bind trivial fun existing _ => ?_
    split
    · exact ensures_update _
    · exact ensures_insert _

end Deployer

namespace RunService

theorem ensures_start (inputs : Entries Json) (path : String) : (answering client workspace).Ensures
    (fun history result => ∀ job, result = .ok job → ∃ args,
      Accepted client workspace history (.runFlow path args) job)
    history (create.start inputs path).run := by
  refine Contract.ensures_ask_bind trivial fun services _ => ?_
  refine Contract.ensures_tryCall_bind trivial (fun reply outcome hreply houtcome => ?_) fun _ _ =>
    nofun
  cases outcome with
  | ok value =>
    obtain rfl := eq_ok_of_separateFault houtcome
    intro job hjob
    cases hjob
    exact ⟨_, accepted_of_expects nofun hreply⟩
  | error fault => exact Contract.ensures_report_bind trivial nofun

theorem ensures_create (workflowId : String) (inputs : Entries Json) :
    (answering client workspace).Ensures (fun _ _ => True) history
      (create true workflowId inputs).run := by
  refine Contract.ensures_ask_bind trivial fun found _ => ?_
  cases found with
  | none => exact trivial
  | some workflow =>
    dsimp only
    split
    · exact trivial
    · next path _ =>
      rw [if_pos rfl, bind_map_left]
      refine Contract.ensures_run_bind (ensures_start inputs path) (fun history job hstarted => ?_)
        fun _ _ _ => trivial
      obtain ⟨args, haccepted⟩ := hstarted job rfl
      refine Contract.ensures_ask_bind ⟨path, args, job, rfl, haccepted⟩ fun run _ => ?_
      exact Contract.ensures_report_bind trivial trivial

end RunService

namespace EngineCall

def IsSent (client : Http.Client) (workspace : String) (call : EngineCall) : Prop :=
  ∃ request, call.request client workspace = .ok request ∧ request.url.isTyped = true

variable {call : EngineCall} {response : Http.Response}

theorem refuses_response_iff (hcall : call ≠ .checkHealth) :
    Refuses response.status (call.perform client workspace (.ok response)) ↔
      call.IsSent client workspace ∧ 400 ≤ response.status ∧ response.status ≤ 599 ∧
      response.IsText := by
  have hrefusal : Http.Outcome.IsRefusal response.status (.ok response) ↔
      400 ≤ response.status ∧ response.status ≤ 599 ∧ response.IsText := by
    simp [Http.Outcome.IsRefusal, Http.Response.isError_iff, and_assoc]
  simp only [refuses_perform_iff hcall, IsSent, Http.isRefusal_receive_iff, hrefusal,
    exists_and_right, ← and_assoc]

theorem succeeds_iff (hcall : call ≠ .checkHealth) :
    (∃ reply, call.perform client workspace (.ok response) = .ok reply) ↔
      call.IsSent client workspace ∧ call.Takes response := by
  simp only [exists_perform_iff hcall, IsSent, Http.Request.receive_eq_ok_iff, Except.ok.injEq]
  grind

end EngineCall

/-- A call that does more than to ask for the health of the engine fails with the status of a
response exactly when it is that of a client or server error with a text that can be read. Any
other response, of whatever status, is a success if it can be read; and only after such a success a
deployment says that the engine has its flow, and a run is stored. -/
theorem refuses_iff (client : Http.Client) (workspace : String) :
    (∀ call : EngineCall, call ≠ .checkHealth → ∀ response : Http.Response,
      (Refuses response.status (call.perform client workspace (.ok response)) ↔
        call.IsSent client workspace ∧ 400 ≤ response.status ∧ response.status ≤ 599 ∧
        response.IsText) ∧
      ((∃ reply, call.perform client workspace (.ok response) = .ok reply) ↔
        call.IsSent client workspace ∧ call.Takes response)) ∧
    (∀ c request, (answering client workspace).Ensures (Deployer.Synced client workspace) []
      (Deployer.deploy c request).run) ∧
    ∀ workflowId inputs, (answering client workspace).Ensures (fun _ _ => True) []
      (RunService.create true workflowId inputs).run := by
  refine ⟨?_, ?_, ?_⟩
  · intro call hcall response
    exact ⟨EngineCall.refuses_response_iff hcall, EngineCall.succeeds_iff hcall⟩
  · intro c request
    exact Deployer.ensures_deploy
  · intro workflowId inputs
    exact RunService.ensures_create workflowId inputs

def redirection : Http.Response := ⟨302, none, []⟩

theorem refuses_of_badGateway :
    Refuses badGateway.status ((EngineCall.deleteFlow "f/x").perform engineClient "main"
      (.ok badGateway)) ∧
    ¬∃ reply, (EngineCall.deleteFlow "f/x").perform engineClient "main" (.ok badGateway) =
      .ok reply := by
  obtain ⟨hcalls, -⟩ := refuses_iff engineClient "main"
  obtain ⟨hrefuses, hsucceeds⟩ := hcalls (.deleteFlow "f/x") nofun badGateway
  constructor
  · apply hrefuses.mpr
    exact ⟨⟨_, rfl, rfl⟩, by decide, by decide, .inr trivial⟩
  · rintro hreply
    exact nomatch (hsucceeds.mp hreply).2.1

/-- A redirection is taken for the word that the flow is deleted. -/
theorem not_refuses_of_redirection :
    EngineSettings.connect ⟨"http://engine.test", "token", "main"⟩ = .ok engineClient ∧
    ¬(200 ≤ redirection.status ∧ redirection.status ≤ 299) ∧
    (EngineCall.deleteFlow "f/x").perform engineClient "main" (.ok redirection) = .ok () ∧
    ¬Refuses redirection.status ((EngineCall.deleteFlow "f/x").perform engineClient "main"
      (.ok redirection)) := by
  have hperform : (EngineCall.deleteFlow "f/x").perform engineClient "main" (.ok redirection) =
      .ok () := rfl
  refine ⟨rfl, by decide, hperform, ?_⟩
  rw [hperform]
  exact not_refuses_ok _

end Flowplan
