import Flowplan.Generation.Generator

namespace Flowplan.Simulation

structure ModelScript where
  turns : List (Except String (List ResponsePart))
  discovery : Option (Entries Http.Outcome)

structure ModelState where
  asked : List (List Message) := []
  requested : List String := []
  history : TraceHistory
  logs : List LogEntry := []

namespace ModelScript

def directorySettings : DirectorySettings := ⟨"http://registry.test", "key"⟩

def noRoute : Http.Response := .ofText 404 "text/plain" "no route"

def directoryRequest (query : Directory.Query) : Except Directory.Trouble Http.Request := do
  query.request (← directorySettings.connect.mapError .exchange)

def turn (script : ModelScript) (taken : Nat) : Except String (List ResponsePart) :=
  match script.turns[taken]? with
  | some turn => turn
  | none => script.turns.getLast?.getD (.ok [])

def handle (script : ModelScript) :
    (action : Generator.Action) → ModelState → action.Answer × ModelState
  | .askModel messages, state =>
    (script.turn state.asked.length, { state with asked := state.asked ++ [messages] })
  | .consult query, state =>
    match directoryRequest query with
    | .error trouble => (.error trouble, state)
    | .ok request =>
      let path := String.ofList request.url.rawPath
      let outcome := ((script.discovery.getD []).lookup path).getD (.ok noRoute)
      (query.answer outcome, { state with requested := state.requested ++ [path] })
  | .report entry, state => ((), { state with logs := state.logs ++ [entry] })
  | .trace kind prompt response metadata, state =>
    ((), { state with history := state.history.record kind prompt response metadata })

def generate (script : ModelScript) (c : Generator.Context) (hints : Option Hints)
    (style : Option Style) (limit : Nat) : Except GenerationFailure Candidate × ModelState :=
  (Generator.generate c hints style).run.run script.handle { history := { limit } }

end ModelScript

end Flowplan.Simulation
