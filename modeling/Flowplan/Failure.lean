import Flowplan.Graph.Defect
import Flowplan.Http.Exchange
import Flowplan.Intake.Fault
import Flowplan.Plan.Compile
import Flowplan.Run.Status

namespace Flowplan

inductive EngineFault
  | unreachable (call reason : String)
  | refused (call : String) (status : Int) (reason body : String)
  | notJob (id : String) (payload : Json)
  | reported (message : String) (status : Option Int)
deriving DecidableEq

namespace EngineFault

def message : EngineFault → String
  | .unreachable call reason => s!"Engine request failed: {call}: {reason}"
  | .refused call status reason body => s!"Engine API error: {call} -> {status} {reason}: {body}"
  | .notJob id payload => s!"Unexpected job payload for {id}: {payload.inspect}"
  | .reported message _ => message

def status : EngineFault → Option Int
  | .unreachable .. | .notJob .. => none
  | .refused _ status _ _ => some status
  | .reported _ status => status

end EngineFault

inductive Failure
  | engine (fault : EngineFault)
  | exchange (fault : Http.Fault)
  | badRecord (record : String) (faults : List Intake.Fault)
  | crash (message : String)
  | noRun (id : String)
  | noWorkflow (id : String)
  | noRecord (id : String)
  | badStatus (value : Json)
  | unknownField (name record : String)
  | forbiddenMove (run : String) (current target : RunStatus)
  | finished (status : RunStatus)
  | noFlowPath (workflow : String)
  | noFreeName (signature app : String)
  | invalidGraph (issues : List Issue)
  | notCompiled (error : CompileError)
  | badNumeral (error : Text.NumeralError)
  | constraint
deriving DecidableEq

namespace Failure

def message : Failure → String
  | .engine fault => fault.message
  | .exchange fault => fault.message
  | .badRecord record faults => Intake.Fault.reportAll record faults
  | .crash message => message
  | .noRun id => s!"Workflow run not found: {id}"
  | .noWorkflow id => s!"Workflow not found: {id}"
  | .noRecord id => Text.quoted id
  | .badStatus value => s!"{value.inspect} is not a valid RunStatus"
  | .unknownField name record => s!"{Text.quoted name} is an invalid keyword argument for {record}"
  | .forbiddenMove run current target =>
    s!"Cannot move run {run} from {current.name} to {target.name}"
  | .finished status => s!"Cannot cancel run with status: {status.name}"
  | .noFlowPath workflow => s!"Workflow {workflow} has no flow path"
  | .noFreeName signature app =>
    s!"Could not assign a unique name for signature {signature} in app {app}"
  | .invalidGraph issues => Defect.summary issues
  | .notCompiled error => error.message
  | .badNumeral error => error.message
  | .constraint => "A constraint of the store does not hold"

end Failure

end Flowplan
