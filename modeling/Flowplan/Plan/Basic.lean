import Flowplan.Json.Printer

namespace Flowplan

inductive Param
  | static (value : Json)
  | expr (text : String)
deriving DecidableEq

structure Retry where
  attempts : Int
  seconds : Int
deriving DecidableEq

def Retry.ofCount (count : Int) : Retry := if 0 < count then ⟨count, 5⟩ else ⟨0, 0⟩

structure Directives where
  summary : Option String := none
  retry : Option Retry := none
  stopAfter : Option String := none
  skipIf : Option String := none
deriving DecidableEq

mutual

inductive Body
  | script (path : String) (params : List (String × Param))
  | pause (seconds : Json)
  | branch (cases : List Case)
  | loop (iterator : String) (body : List Module) (parallel skipFailures : Bool)

inductive Case
  | mk (expr : String) (body : List Module)

inductive Module
  | mk (id : String) (body : Body) (directives : Directives)

end

namespace Case

def expr : Case → String
  | .mk expr _ => expr

def body : Case → List Module
  | .mk _ body => body

end Case

namespace Module

def id : Module → String
  | .mk id _ _ => id

def body : Module → Body
  | .mk _ body _ => body

def directives : Module → Directives
  | .mk _ _ directives => directives

end Module

structure Plan where
  summary : String
  modules : List Module
  inputs : Entries Json
  failure : Option Module
  sameWorker : Bool

namespace Plan

mutual

def preorder : List Module → List Module
  | [] => []
  | m :: rest => m :: preorderOf m ++ preorder rest
termination_by structural ms => ms

def preorderOf : Module → List Module
  | .mk _ body _ => preorderBody body
termination_by structural m => m

def preorderBody : Body → List Module
  | .script _ _ => []
  | .pause _ => []
  | .branch cases => preorderCases cases
  | .loop _ body _ _ => preorder body
termination_by structural b => b

def preorderCases : List Case → List Module
  | [] => []
  | c :: rest => preorderCase c ++ preorderCases rest
termination_by structural cs => cs

def preorderCase : Case → List Module
  | .mk _ body => preorder body
termination_by structural c => c

end

def allModules (plan : Plan) : List Module := preorder (plan.modules ++ plan.failure.toList)

end Plan

end Flowplan
