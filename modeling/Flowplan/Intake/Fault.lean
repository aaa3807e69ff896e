import Flowplan.Json.Printer

namespace Flowplan.Intake

inductive Step
  | name (text : String)
  | index (position : Nat)
deriving DecidableEq

def Step.text : Step → String
  | .name text => text
  | .index position => toString position

inductive Cause
  | missing
  | notText
  | emptyText
  | notList
  | emptyList
  | notObject
  | notRecord (record : String)
  | notInteger
  | notIntegerText
  | oversized
  | fractional
  | notFinite
  | negative
  | notBoolean
  | notBooleanText
  | notChoice (choices : List String)
  | refused (reason : String)
deriving DecidableEq

namespace Cause

def joinChoices : List String → String
  | [] => ""
  | [a] => a
  | [a, b] => a ++ " or " ++ b
  | a :: rest => a ++ ", " ++ joinChoices rest

def code : Cause → String
  | .missing => "missing"
  | .notText => "string_type"
  | .emptyText => "string_too_short"
  | .notList => "list_type"
  | .emptyList => "too_short"
  | .notObject => "dict_type"
  | .notRecord _ => "model_type"
  | .notInteger => "int_type"
  | .notIntegerText => "int_parsing"
  | .oversized => "int_parsing_size"
  | .fractional => "int_from_float"
  | .notFinite => "finite_number"
  | .negative => "greater_than_equal"
  | .notBoolean => "bool_type"
  | .notBooleanText => "bool_parsing"
  | .notChoice _ => "literal_error"
  | .refused _ => "value_error"

def message : Cause → String
  | .missing => "Field required"
  | .notText => "Input should be a valid string"
  | .emptyText => "String should have at least 1 character"
  | .notList => "Input should be a valid list"
  | .emptyList => "List should have at least 1 item after validation, not 0"
  | .notObject => "Input should be a valid dictionary"
  | .notRecord record => s!"Input should be a valid dictionary or instance of {record}"
  | .notInteger => "Input should be a valid integer"
  | .notIntegerText => "Input should be a valid integer, unable to parse string as an integer"
  | .oversized => "Unable to parse input string as an integer, exceeded maximum size"
  | .fractional => "Input should be a valid integer, got a number with a fractional part"
  | .notFinite => "Input should be a finite number"
  | .negative => "Input should be greater than or equal to 0"
  | .notBoolean => "Input should be a valid boolean"
  | .notBooleanText => "Input should be a valid boolean, unable to interpret input"
  | .notChoice choices => "Input should be " ++ joinChoices (choices.map Text.quoted)
  | .refused reason => s!"Value error, {reason}"

end Cause

structure Fault where
  path : List Step
  cause : Cause
  input : Json
deriving DecidableEq

namespace Fault

def place (fault : Fault) : String := ".".intercalate (fault.path.map Step.text)

def kindName : Json → String
  | .null => "NoneType"
  | .bool _ => "bool"
  | .int _ => "int"
  | .float _ => "float"
  | .str _ => "str"
  | .arr _ => "list"
  | .obj _ => "dict"

def takeBytes (limit : Nat) : List Char → List Char
  | [] => []
  | c :: cs => if c.utf8Size ≤ limit then c :: takeBytes (limit - c.utf8Size) cs else []

/-- A text of more than fifty bytes keeps its first twenty-five and its last twenty-four. -/
def abbreviate (cs : List Char) : List Char :=
  if (String.ofList cs).utf8ByteSize ≤ 50 then cs
  else takeBytes 25 cs ++ ['.', '.', '.'] ++ (takeBytes 24 cs.reverse).reverse

def reference : String := "https:" ++ "//errors.pydantic.dev/2.14/v/"

def report (fault : Fault) : String :=
  let input := String.ofList (abbreviate fault.input.literal)
  (if fault.path.isEmpty then "" else fault.place ++ "\n")
    ++ s!"  {fault.cause.message} [type={fault.cause.code}, input_value={input}, "
    ++ s!"input_type={kindName fault.input}]\n"
    ++ s!"    For further information visit {reference}{fault.cause.code}"

def reportAll (record : String) (faults : List Fault) : String :=
  let count := faults.length
  let noun := if count == 1 then "validation error" else "validation errors"
  s!"{count} {noun} for {record}\n" ++ "\n".intercalate (faults.map report)

end Fault

end Flowplan.Intake
