import Flowplan.Json.Parser

namespace Flowplan

structure ToolCall where
  tool : String
  args : Json
  id : String
deriving DecidableEq

namespace ToolCall

def unreadableName : String := "INVALID_JSON"

/-- The arguments by name. They come as an object or as the strict text
of one; nothing at all is an empty object. -/
def arguments (call : ToolCall) : Entries Json :=
  match call.args with
  | .obj fields => fields
  | .str text =>
    if text == "" then []
    else
      match Json.parse text .strict with
      | .ok (.obj fields) => fields
      | _ => [(unreadableName, .str text)]
  | _ => []

end ToolCall

inductive ResponsePart
  | text (content : String)
  | call (call : ToolCall)
deriving DecidableEq

def toolCalls (parts : List ResponsePart) : List ToolCall :=
  parts.filterMap fun part => match part with
    | .call call => some call
    | .text _ => none

inductive AnswerKind
  | result
  | retry
deriving DecidableEq

inductive RequestPart
  | system (content : String)
  | user (content : String)
  | answer (kind : AnswerKind) (tool callId content : String)
deriving DecidableEq

namespace RequestPart

def result (call : ToolCall) (content : String) : RequestPart :=
  .answer .result call.tool call.id content

def retry (call : ToolCall) (content : String) : RequestPart :=
  .answer .retry call.tool call.id content

end RequestPart

inductive Message
  | request (parts : List RequestPart)
  | response (parts : List ResponsePart)
deriving DecidableEq

end Flowplan
