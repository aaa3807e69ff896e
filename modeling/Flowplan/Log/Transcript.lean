import Flowplan.Json.Printer
import Flowplan.Log.Trace
import Flowplan.Text.Case
import Flowplan.Time

namespace Flowplan

structure Console where
  component : String
  structured : Bool := false
  grouped : Bool := false
deriving DecidableEq

structure LogGroup where
  title : String
  runId : Option String
  depth : Nat
  openedAt : Time
deriving DecidableEq

namespace Console

def reset : String := "\x1b[0m"

def amber : String := "\x1b[38;5;214m"

def darkAmber : String := "\x1b[38;5;172m"

def cyan : String := "\x1b[38;5;51m"

def gray : String := "\x1b[38;5;240m"

def mark : Level → String
  | .debug => "▪"
  | .info => "◆"
  | .success => "◉"
  | .warning => "◈"
  | .error => "◇"

def color : Level → String
  | .debug => gray
  | .info => cyan
  | .success => "\x1b[38;5;76m"
  | .warning => amber
  | .error => "\x1b[38;5;196m"

def filled (width : Nat) (text : String) : String :=
  text ++ String.ofList (List.replicate (width - text.length) ' ')

def shortId (id : String) : String := String.ofList (id.toList.take 8)

def clock (now : Time) : String := now.clockText ++ ".000"

def blanks (depth : Nat) : String := String.ofList (List.replicate (2 * depth) ' ')

def name (console : Console) : String := Text.uppercase console.component

def flagLast {α : Type} : List α → List (α × Bool)
  | [] => []
  | [x] => [(x, true)]
  | x :: xs => (x, false) :: flagLast xs

def twig (last : Bool) : String := if last then "└─" else "├─"

def dataLines (indent : String) (entry : (String × Json) × Bool) : List String :=
  let ((name, value), last) := entry
  let stem := s!"{indent}{gray}│   {twig last} {reset}{darkAmber}{name}:"
  match value with
  | .obj fields =>
    let side := if last then "    " else "│   "
    (stem ++ reset) :: (flagLast fields).map fun ((name, value), last) =>
      s!"{indent}{gray}│   {side}{twig last} {reset}{amber}{name}: {cyan}{value.display}{reset}"
  | .arr items =>
    if 3 < items.length then [s!"{stem} {cyan}[{items.length} items]{reset}"]
    else [s!"{stem} {cyan}{value.display}{reset}"]
  | value => [s!"{stem} {cyan}{value.display}{reset}"]

def dataText (indent : String) (data : Entries Json) : String :=
  String.join (((flagLast data).flatMap (dataLines indent)).map ("\n" ++ ·))

def structuredText (now : Time) (entry : LogEntry) : String :=
  (Json.obj [("timestamp", .str now.text), ("level", .str entry.level.label),
    ("component", .str entry.component), ("message", .str entry.message),
    ("run_id", .ofText? entry.runId), ("data", .obj entry.data)]).print .spacedAscii

def groupedText (group : LogGroup) (entry : LogEntry) : String :=
  let indent := blanks group.depth
  s!"{indent}{gray}│{reset} {color entry.level}{mark entry.level}{reset} "
    ++ s!"{amber}{entry.message}{reset}"
    ++ dataText indent entry.data

def headedText (now : Time) (entry : LogEntry) : String :=
  let source := match entry.runId.filter (· != "") with
    | some id => s!"{entry.component}▸run:{shortId id}"
    | none => entry.component
  s!"{gray}┌─[{reset}{cyan}{clock now}{reset}{gray}]─{reset} "
    ++ s!"{color entry.level}{mark entry.level} {filled 7 entry.level.label}{reset} "
    ++ s!"{gray}[{reset}{amber}{source}{reset}{gray}]{reset}\n"
    ++ s!"{gray}│{reset} {amber}{entry.message}{reset}" ++ dataText "" entry.data

def entryText (console : Console) (now : Time) (group : Option LogGroup) (level : Level)
    (message : String) (data : Entries Json) (runId : Option String) : String :=
  let entry : LogEntry := ⟨level, console.name, message, data, runId⟩
  let text :=
    if console.structured then structuredText now entry
    else
      match group.filter fun _ => console.grouped with
      | some group => groupedText group entry
      | none => headedText now entry
  text ++ "\n"

def openGroup (now : Time) (parent : Option LogGroup) (title : String) (runId : Option String) :
    LogGroup where
  title := title
  runId := (runId.filter (· != "")).or (parent.bind LogGroup.runId)
  depth := match parent with
    | some parent => parent.depth + 1
    | none => 0
  openedAt := now

def showsGroups (console : Console) : Bool := console.grouped && !console.structured

def headerText (console : Console) (now : Time) (group : LogGroup) : String :=
  if console.showsGroups then
    let run := match group.runId.filter (· != "") with
      | some id => s!" {gray}run:{cyan}{shortId id}{reset}"
      | none => ""
    s!"\n{blanks group.depth}{gray}┌─{reset} {amber}[{group.title}]{reset}{run} "
      ++ s!"{gray}@ {cyan}{clock now}{reset}\n"
  else ""

def footerText (console : Console) (now : Time) (group : LogGroup) : String :=
  if console.showsGroups then
    let seconds := now.seconds - group.openedAt.seconds
    s!"{blanks group.depth}{gray}└─ completed in {cyan}{seconds}.000s{reset}\n\n"
  else ""

end Console

inductive LogStep
  | entry (level : Level) (message : String) (data : Entries Json) (runId : Option String)
  | group (title : String) (runId : Option String) (steps : List LogStep)
deriving Inhabited

inductive LogEventKind
  | written
  | opened
  | closed
deriving DecidableEq

structure LogEvent where
  kind : LogEventKind
  text : String
  group : Option LogGroup
deriving DecidableEq

namespace Console

mutual

def stepEvents (console : Console) (now : Time) (group : Option LogGroup) : LogStep → List LogEvent
  | .entry level message data runId =>
    [⟨.written, console.entryText now group level message data runId, group⟩]
  | .group title runId steps =>
    let opened := openGroup now group title runId
    ⟨.opened, console.headerText now opened, some opened⟩
      :: stepsEvents console now (some opened) steps
      ++ [⟨.closed, console.footerText now opened, group⟩]
termination_by structural step => step

def stepsEvents (console : Console) (now : Time) (group : Option LogGroup) :
    List LogStep → List LogEvent
  | [] => []
  | step :: steps => stepEvents console now group step ++ stepsEvents console now group steps
termination_by structural steps => steps

end

def transcriptText (console : Console) (now : Time) (steps : List LogStep) : String :=
  String.join ((console.stepsEvents now none steps).map LogEvent.text)

end Console

end Flowplan
