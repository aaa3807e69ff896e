import Flowplan.Engine.Http
import Flowplan.Proofs.Fallible

/-!
# Replies of the engine

What a call makes of any outcome of its request. Trouble on the way, errors of the engine and
answers that are no job are faults of the engine; what cannot be read is not.
-/

namespace Flowplan

namespace Text.Charset

def Reads : Charset → List UInt8 → Prop
  | .marked bits, bytes => (byteOrderMark? bits bytes).isSome ∨ 8 * bytes.length < bits
  | .undefined, _ | .strictOnly, _ | .conversion, _ | .rotation, _ => False
  | _, _ => True

theorem exists_read_iff (charset : Charset) (bytes : List UInt8) :
    (∃ cs, charset.read bytes = .ok cs) ↔ charset.Reads bytes := by
  cases charset with
  | marked bits =>
    simp only [read, Reads]
    cases byteOrderMark? bits bytes with
    | none => by_cases hshort : 8 * bytes.length < bits <;> simp [hshort]
    | some found => simp
  | markedUtf8 =>
    simp only [read, Reads, iff_true]
    split <;> simp
  | _ => simp [read, Reads]

end Text.Charset

namespace Http.Response

variable {response : Response}

def IsText (response : Response) : Prop := response.body = [] ∨ response.charset.Reads response.body

/-- What a client reads of a response can be read: the text of an error, the value
of a response that says JSON, else the text. -/
def IsLegible (response : Response) : Prop :=
  if response.isError || !response.saysJson then response.IsText
  else ∃ value, response.json = .ok value

theorem exists_text_iff : (∃ text, response.text = .ok text) ↔ response.IsText := by
  simp only [text, IsText, ← Text.Charset.exists_read_iff]
  cases response.body with
  | nil => simp
  | cons byte rest =>
    cases response.charset.read (byte :: rest) <;> simp [Except.map]

end Http.Response

namespace Json

/-- How deep the brackets of a text are nested, those between quotes apart. -/
def nesting : (quoted : Bool) → (depth : Nat) → List Char → Nat
  | true, depth, '\\' :: _ :: cs => nesting true depth cs
  | quoted, depth, '"' :: cs => nesting (!quoted) depth cs
  | true, depth, _ :: cs => nesting true depth cs
  | false, depth, c :: cs =>
    if c == '[' || c == '{' then nesting false (depth + 1) cs
    else if c == ']' || c == '}' then max depth (nesting false (depth - 1) cs)
    else nesting false depth cs
  | _, depth, [] => depth

/-- A reader that calls itself once a level can follow values this deep. -/
def nestingLimit : Nat := 500

end Json

/-- Whether the value of a response, if one is read, is all that its bytes say: it is not nested
too deep, and half a surrogate pair, which is no character, stands neither in the bytes (it would
be replaced) nor in an escape (a strict reader would refuse it). -/
def Http.Response.isPlain (response : Response) : Bool :=
  response.isError || !response.saysJson ||
    match Text.readGuessing response.body with
    | .error _ => true
    | .ok text =>
      let source := String.ofList text
      !(Json.parse source).isOk ||
        (Text.utf8 source == response.body || !text.contains Text.replacement) &&
          (Json.parse source .strict).isOk && Json.nesting false 0 text ≤ Json.nestingLimit

abbrev Http.PlainOutcome :=
  { outcome : Http.Outcome // ∀ response, outcome = .ok response → response.isPlain = true }

namespace Intake

namespace Reading

variable {α β : Type}

def IsGood (reading : Reading α) : Prop := ∃ value, reading = .good value

@[simp] theorem isGood_good (value : α) : (Reading.good value).IsGood := ⟨value, rfl⟩

@[simp] theorem not_isGood_refuse (cause : Cause) (input : Json) :
    ¬(refuse cause input : Reading α).IsGood := nofun

@[simp] theorem isGood_seq {f : Reading (α → β)} {x : Reading α} :
    (f <*> x).IsGood ↔ f.IsGood ∧ x.IsGood := by
  simp only [IsGood, seq_eq_good_iff]
  grind

@[simp] theorem isGood_map {f : α → β} {x : Reading α} : (f <$> x).IsGood ↔ x.IsGood := by
  simp only [IsGood, map_eq_good_iff]
  grind

@[simp] theorem isGood_under {step : Step} {x : Reading α} : (x.under step).IsGood ↔ x.IsGood := by
  simp only [IsGood, under_eq_good_iff]

end Reading

variable {α : Type} {fields : Entries Json} {name : String} {value : Json}

theorem isGood_defaulted {fallback : α} {read : Json → Reading α} :
    (defaulted fields name fallback read).IsGood ↔
      ∀ value, fields.lookup name = some value → (read value).IsGood := by
  rw [defaulted, field?]
  cases fields.lookup name <;> simp

theorem isGood_optional {read : Json → Reading α} :
    (optional read value).IsGood ↔ value = .null ∨ (read value).IsGood := by
  cases value <;> simp [optional]

theorem isGood_text : (text value).IsGood ↔ ∃ s, value = .str s := by
  cases value <;> simp [text]

def SaysTruth : Json → Prop
  | .bool _ => True
  | .int n => n = 0 ∨ n = 1
  | .float x => x.toInt? = some 0 ∨ x.toInt? = some 1
  | .str s => String.ofList (s.toList.map Char.toLower) ∈ trueWords ++ falseWords
  | _ => False

theorem isSome_bit?_iff (n : Int) : (bit? n).isSome ↔ n = 0 ∨ n = 1 := by
  unfold bit?
  split <;> simp_all

theorem isGood_bit {n : Int} : (bit n value).IsGood ↔ n = 0 ∨ n = 1 := by
  rw [bit, ← isSome_bit?_iff]
  cases bit? n <;> simp

theorem isGood_boolean : (boolean value).IsGood ↔ SaysTruth value := by
  cases value with
  | int n => exact isGood_bit
  | float x =>
    simp only [boolean, SaysTruth]
    cases x.toInt? with
    | none => simp
    | some n =>
      -- neither zero nor one is too large
      by_cases hsmall : isSignedWord n = true
      · simp [Option.filter_some, hsmall, isGood_bit]
      · have hne : ¬(n = 0 ∨ n = 1) := by
          rintro (rfl | rfl) <;> exact hsmall rfl
        simpa [Option.filter_some, hsmall] using hne
  | str s =>
    simp only [boolean, SaysTruth, List.mem_append, List.contains_iff_mem]
    split
    · next htrue => simp [htrue]
    · next htrue =>
      split
      · next hfalse => simp [hfalse]
      · next hfalse => simp [htrue, hfalse]
  | _ => simp [boolean, SaysTruth]

end Intake

namespace Job

open Intake

structure Typed (fields : Entries Json) : Prop where
  running : ∀ value, fields.lookup "running" = some value → SaysTruth value
  flags : ∀ name ∈ ["success", "canceled"], ∀ value, fields.lookup name = some value →
    value = .null ∨ SaysTruth value
  texts : ∀ name ∈ ["id", "canceled_reason", "started_at"], ∀ value,
    fields.lookup name = some value →
    value = .null ∨ ∃ s, value = .str s

theorem isGood_read {fields : Entries Json} : (read (.obj fields)).IsGood ↔ Typed fields := by
  simp only [read, record, Reading.isGood_seq, Reading.isGood_map, Reading.isGood_good,
    isGood_defaulted, isGood_optional, isGood_text, isGood_boolean]
  constructor
  · rintro ⟨⟨⟨⟨⟨⟨⟨hid, hrunning⟩, hsuccess⟩, -⟩, hcanceled⟩, hreason⟩, hstarted⟩, -⟩
    refine ⟨hrunning, ?_, ?_⟩ <;> simp only [List.forall_mem_cons]
    · exact ⟨hsuccess, hcanceled, nofun⟩
    · exact ⟨hid, hreason, hstarted, nofun⟩
  · rintro ⟨hrunning, hflags, htexts⟩
    simp only [List.forall_mem_cons] at hflags htexts
    exact ⟨⟨⟨⟨⟨⟨⟨htexts.1, hrunning⟩, hflags.1⟩, by simp [anything]⟩, hflags.2.1⟩, htexts.2.1⟩,
        htexts.2.2.1⟩, trivial⟩

end Job

/-- What goes wrong is a fault of the engine. -/
def Contained {α : Type} (result : Except Failure α) : Prop :=
  ∀ failure, result = .error failure → ∃ fault, failure = .engine fault

section Contained

variable {α β : Type}

@[simp] theorem contained_ok (value : α) : Contained (.ok value : Except Failure α) := nofun

@[simp] theorem contained_error {failure : Failure} :
    Contained (.error failure : Except Failure α) ↔ ∃ fault, failure = .engine fault := by
  simp [Contained]

@[simp] theorem contained_bind {result : Except Failure α} {next : α → Except Failure β} :
    Contained (result.bind next) ↔
      Contained result ∧ ∀ value, result = .ok value → Contained (next value) := by
  cases result <;> simp [Except.bind]

end Contained

def Http.Outcome.IsLegible : Http.Outcome → Prop
  | .error (.broken _) => True
  | .error (.fault _) => False
  | .ok response => response.IsLegible

namespace EngineCall

variable {call : EngineCall} {outcome : Http.Outcome}

/-- What comes back is legible, and a job has fields of the right kinds. -/
def Understands (call : EngineCall) (outcome : Http.Outcome) : Prop :=
  outcome.IsLegible ∧
    ∀ id fields, call = .getJob id → call.payload outcome = .ok (.obj fields) → Job.Typed fields

theorem payload_ok_cases (call : EngineCall) (response : Http.Response) :
    (response.isError = true ∧ response.IsText ∧ ∃ text, call.payload (.ok response) =
      .error (.engine (.refused call.endpoint.line response.status response.reason text))) ∨
    (response.isError = false ∧ response.IsLegible ∧ ∃ value,
      call.payload (.ok response) = .ok value) ∨
    (¬response.IsLegible ∧ ∃ fault, call.payload (.ok response) = .error (.exchange fault)) := by
  simp only [payload, Http.Response.IsLegible, ← Http.Response.exists_text_iff]
  cases response.isError with
  | true => cases response.text <;> simp
  | false =>
    cases response.saysJson with
    | true => cases response.json <;> simp
    | false => cases response.text <;> simp [Except.map]

theorem contained_payload_iff : Contained (call.payload outcome) ↔ outcome.IsLegible := by
  cases outcome with
  | error loss => cases loss <;> simp [payload, Http.Outcome.IsLegible]
  | ok response =>
    obtain ⟨herror, htext, text, hpayload⟩ | ⟨-, hlegible, value, hpayload⟩ |
      ⟨hillegible, fault, hpayload⟩ := payload_ok_cases call response
    · simp [hpayload, Http.Outcome.IsLegible, Http.Response.IsLegible, herror, htext]
    · simp [hpayload, Http.Outcome.IsLegible, hlegible]
    · simp [hpayload, Http.Outcome.IsLegible, hillegible]

theorem readJob_cases (id : String) (payload : Json) :
    (∃ fields, payload = .obj fields ∧ Job.Typed fields ∧ ∃ job, readJob id payload = .ok job) ∨
    (∃ fields, payload = .obj fields ∧ ¬Job.Typed fields ∧
      ∃ faults, readJob id payload = .error (.badRecord Job.recordName faults)) ∨
    ((∀ fields, payload ≠ .obj fields) ∧
      readJob id payload = .error (.engine (.notJob id payload))) := by
  cases payload with
  | obj fields =>
    simp only [readJob, Json.obj.injEq, exists_eq_left', ← Job.isGood_read]
    cases Job.read (.obj fields) <;> simp [Intake.Reading.toExcept, Intake.Reading.IsGood]
  | _ => simp [readJob]

theorem contained_readJob_iff {id : String} {payload : Json} :
    Contained (readJob id payload) ↔ ∀ fields, payload = .obj fields → Job.Typed fields := by
  obtain ⟨fields, rfl, htyped, job, hread⟩ | ⟨fields, rfl, htyped, faults, hread⟩ |
    ⟨hother, hread⟩ := readJob_cases id payload
  · simp [hread, htyped]
  · simp [hread, htyped]
  · simp [hread, hother]

def finish : (call : EngineCall) → Json → Except Failure call.Reply
  | .createFlow flow, _ => .ok flow.path
  | .updateFlow _, _ => .ok ()
  | .getFlow _, value => .ok value
  | .deleteFlow _, _ => .ok ()
  | .runFlow _ _, value => .ok (jobName value)
  | .getJob id, value => readJob id value
  | .cancelJob _ _, _ => .ok ()
  | .checkHealth, _ => .ok true

theorem reply_eq_bind (hcall : call ≠ .checkHealth) :
    call.reply outcome = (call.payload outcome).bind call.finish := by
  cases call with
  | checkHealth => exact absurd rfl hcall
  | getJob id => rfl
  | getFlow path =>
    simp only [reply]
    cases payload (.getFlow path) outcome <;> rfl
  | createFlow flow | updateFlow flow | deleteFlow path | runFlow path args | cancelJob id reason =>
    rfl

theorem contained_finish_iff {value : Json} :
    Contained (call.finish value) ↔
      ∀ id fields, call = .getJob id → value = .obj fields → Job.Typed fields := by
  cases call with
  | getJob id =>
    refine contained_readJob_iff.trans ?_
    simp only [getJob.injEq]
    exact ⟨fun h _ fields _ => h fields, fun h fields => h id fields rfl⟩
  | _ => exact iff_of_true (contained_ok _) nofun

theorem contained_reply_iff : Contained (call.reply outcome) ↔ call.Understands outcome := by
  have hpayload : Contained (call.payload outcome) ↔ outcome.IsLegible := contained_payload_iff
  rw [Understands, ← hpayload]
  by_cases hcall : call = .checkHealth
  · subst hcall
    simp only [reply]
    cases payload .checkHealth outcome with
    | ok value => exact iff_of_true (contained_ok true) (by simp)
    | error failure =>
      cases failure with
      | engine fault => exact iff_of_true (contained_ok false) (by simp)
      | _ => exact iff_of_false (by simp) (by simp)
  · rw [reply_eq_bind hcall, contained_bind]
    simp only [contained_finish_iff]
    grind

section Performed

variable {client : Http.Client} {workspace : String}

theorem perform_of_request {request : Http.Request}
    (h : call.request client workspace = .ok request) :
    call.perform client workspace outcome = call.reply (request.receive outcome) := by
  rw [perform, h]
  rfl

theorem perform_of_unsent {failure : Failure} (h : call.request client workspace = .error failure) :
    ∃ fault, ∀ outcome, call.perform client workspace outcome = .error (.exchange fault) := by
  have hperform : ∀ outcome, call.perform client workspace outcome = .error failure := by
    intro outcome
    rw [perform, h]
    rfl
  rw [request] at h
  generalize client.request _ _ _ = sent at h
  cases sent with
  | ok request => cases h
  | error fault =>
    cases h
    exact ⟨fault, hperform⟩

theorem contained_perform_iff : Contained (call.perform client workspace outcome) ↔
    ∃ request, call.request client workspace = .ok request ∧
      call.Understands (request.receive outcome) := by
  cases hrequest : call.request client workspace with
  | error failure =>
    obtain ⟨fault, hperform⟩ := perform_of_unsent hrequest
    simp [hperform]
  | ok request => simp [perform_of_request hrequest, contained_reply_iff]

end Performed

end EngineCall

def Refuses {α : Type} (status : Int) (result : Except Failure α) : Prop :=
  ∃ fault, result = .error (.engine fault) ∧ fault.status = some status

section Refuses

variable {α : Type} {status : Int}

@[simp] theorem not_refuses_ok (value : α) : ¬Refuses status (.ok value : Except Failure α) := nofun

@[simp] theorem refuses_error {failure : Failure} :
    Refuses status (.error failure : Except Failure α) ↔
      ∃ fault, failure = .engine fault ∧ fault.status = some status := by
  simp [Refuses]

end Refuses

def Http.Outcome.IsRefusal (status : Int) (outcome : Http.Outcome) : Prop :=
  ∃ response : Http.Response, outcome = .ok response ∧ response.status = status ∧
    response.isError = true ∧
    response.IsText

namespace EngineCall

variable {call : EngineCall} {outcome : Http.Outcome} {status : Int}

theorem refuses_payload_iff : Refuses status (call.payload outcome) ↔ outcome.IsRefusal status := by
  cases outcome with
  | error loss => cases loss <;> simp [payload, Http.Outcome.IsRefusal, EngineFault.status]
  | ok response =>
    obtain ⟨herror, htext, text, hpayload⟩ | ⟨herror, -, value, hpayload⟩ |
      ⟨hillegible, fault, hpayload⟩ := payload_ok_cases call response
    · simp [hpayload, Http.Outcome.IsRefusal, EngineFault.status, herror, htext]
    · simp [hpayload, Http.Outcome.IsRefusal, herror]
    · have hnone : ¬(response.isError = true ∧ response.IsText) := by
        rintro ⟨herror, htext⟩
        simp [Http.Response.IsLegible, herror, htext] at hillegible
      simpa [hpayload, Http.Outcome.IsRefusal] using fun _ => not_and.mp hnone

theorem not_refuses_readJob {id : String} {payload : Json} :
    ¬Refuses status (readJob id payload) := by
  obtain ⟨-, -, -, job, hread⟩ | ⟨-, -, -, faults, hread⟩ | ⟨-, hread⟩ := readJob_cases id payload
  · simp [hread]
  · simp [hread]
  · simp [hread, EngineFault.status]

theorem not_refuses_finish {value : Json} : ¬Refuses status (call.finish value) := by
  cases call with
  | getJob id => exact not_refuses_readJob
  | _ => exact not_refuses_ok _

theorem refuses_reply_iff (hcall : call ≠ .checkHealth) :
    Refuses status (call.reply outcome) ↔ outcome.IsRefusal status := by
  have hpayload : Refuses status (call.payload outcome) ↔ outcome.IsRefusal status :=
    refuses_payload_iff
  rw [← hpayload, reply_eq_bind hcall]
  cases call.payload outcome with
  | ok value => exact iff_of_false not_refuses_finish (not_refuses_ok value)
  | error failure => exact refuses_error.trans refuses_error.symm

theorem refuses_perform_iff {client : Http.Client} {workspace : String}
    (hcall : call ≠ .checkHealth) : Refuses status (call.perform client workspace outcome) ↔
      ∃ request, call.request client workspace = .ok request ∧
        (request.receive outcome).IsRefusal status := by
  cases hrequest : call.request client workspace with
  | error failure =>
    obtain ⟨fault, hperform⟩ := perform_of_unsent hrequest
    simp [hperform]
  | ok request => simp [perform_of_request hrequest, refuses_reply_iff hcall]

/-- What a call takes for a success: a legible response that is no
error, of which a job is typed. -/
def Takes (call : EngineCall) (response : Http.Response) : Prop :=
  response.isError = false ∧ response.IsLegible ∧
    ∀ id, call = .getJob id → ∃ fields, call.payload (.ok response) = .ok (.obj fields) ∧
      Job.Typed fields

theorem exists_payload_iff {response : Http.Response} :
    (∃ value, call.payload (.ok response) = .ok value) ↔
      response.isError = false ∧ response.IsLegible := by
  obtain ⟨herror, -, text, hpayload⟩ | ⟨herror, hlegible, hpayload⟩ |
    ⟨hillegible, fault, hpayload⟩ := payload_ok_cases call response
  · simp [hpayload, herror]
  · exact iff_of_true hpayload ⟨herror, hlegible⟩
  · simp [hpayload, hillegible]

theorem exists_readJob_iff {id : String} {payload : Json} :
    (∃ job, readJob id payload = .ok job) ↔ ∃ fields, payload = .obj fields ∧ Job.Typed fields := by
  obtain ⟨fields, rfl, htyped, hread⟩ | ⟨fields, rfl, htyped, faults, hread⟩ | ⟨hother, hread⟩ :=
    readJob_cases id payload
  · exact iff_of_true hread ⟨fields, rfl, htyped⟩
  · simp [hread, htyped]
  · simp [hread, hother]

theorem exists_finish_iff {value : Json} : (∃ reply, call.finish value = .ok reply) ↔
    ∀ id, call = .getJob id → ∃ fields, value = .obj fields ∧ Job.Typed fields := by
  cases call with
  | getJob id =>
    refine exists_readJob_iff.trans ?_
    simp only [getJob.injEq, forall_eq']
  | _ => exact iff_of_true ⟨_, rfl⟩ nofun

theorem exists_reply_ok_iff (hcall : call ≠ .checkHealth) {response : Http.Response} :
    (∃ reply, call.reply (.ok response) = .ok reply) ↔ call.Takes response := by
  have hpayload : (∃ value, call.payload (.ok response) = .ok value) ↔ _ := exists_payload_iff
  rw [Takes, ← and_assoc, ← hpayload, reply_eq_bind hcall]
  cases call.payload (.ok response) with
  | ok value => simp [Except.bind, exists_finish_iff]
  | error failure => simp [Except.bind]

theorem exists_reply_iff (hcall : call ≠ .checkHealth) :
    (∃ reply, call.reply outcome = .ok reply) ↔
      ∃ response, outcome = .ok response ∧ call.Takes response := by
  cases outcome with
  | error loss =>
    rw [reply_eq_bind hcall]
    cases loss <;> simp [payload, Except.bind]
  | ok response => simp [exists_reply_ok_iff hcall]

theorem exists_perform_iff {client : Http.Client} {workspace : String}
    (hcall : call ≠ .checkHealth) :
    (∃ reply, call.perform client workspace outcome = .ok reply) ↔ ∃ request response,
      call.request client workspace = .ok request ∧ request.receive outcome = .ok response ∧
      call.Takes response := by
  cases hrequest : call.request client workspace with
  | error failure =>
    obtain ⟨fault, hperform⟩ := perform_of_unsent hrequest
    simp [hperform]
  | ok request => simp [perform_of_request hrequest, exists_reply_iff hcall]

end EngineCall

namespace Http

variable {request : Request} {outcome : Outcome} {response : Response} {status : Int}

theorem Request.receive_eq_ok_iff :
    request.receive outcome = .ok response ↔
      request.url.isTyped = true ∧ outcome = .ok response := by
  cases outcome with
  | error loss => simp [receive, Except.bind]
  | ok other => by_cases htyped : request.url.isTyped = true <;> simp [receive, Except.bind, htyped]

theorem isRefusal_receive_iff : (request.receive outcome).IsRefusal status ↔
    request.url.isTyped = true ∧ outcome.IsRefusal status := by
  simp only [Outcome.IsRefusal, Request.receive_eq_ok_iff, and_assoc, exists_and_left]

theorem Response.isError_iff :
    response.isError = true ↔ 400 ≤ response.status ∧ response.status ≤ 599 := by
  simp [isError]

end Http

def engineClient : Http.Client :=
  ⟨⟨"http".toList, ⟨[], "engine.test".toList, none⟩, "/api/".toList, none, none⟩,
    ("authorization", "Bearer token")⟩

def badGateway : Http.Response := ⟨502, some "text/plain", [0x6F, 0x6F, 0x70, 0x73]⟩

end Flowplan
