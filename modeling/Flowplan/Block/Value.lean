import Flowplan.Block.Node
import Flowplan.Block.Scalar
import Flowplan.Intake.Fault

namespace Flowplan.Block

inductive Value
  | scalar (value : Scalar)
  | list (items : List Value)
  | mapping (fields : List (Scalar × Value))

namespace Value

mutual

def literal : Value → List Char
  | .scalar value => value.inspect.toList
  | .list [] => ['[', ']']
  | .list (x :: xs) => '[' :: literal x ++ literalItems xs ++ [']']
  | .mapping [] => ['{', '}']
  | .mapping (x :: xs) => '{' :: literalField x ++ literalFields xs ++ ['}']
termination_by structural v => v

def literalItems : List Value → List Char
  | [] => []
  | x :: xs => ',' :: ' ' :: literal x ++ literalItems xs
termination_by structural v => v

def literalFields : List (Scalar × Value) → List Char
  | [] => []
  | x :: xs => ',' :: ' ' :: literalField x ++ literalFields xs
termination_by structural v => v

def literalField : Scalar × Value → List Char
  | (name, x) => name.inspect.toList ++ ':' :: ' ' :: literal x
termination_by structural v => v

end

def inspect (value : Value) : String := String.ofList value.literal

def truthy : Value → Bool
  | .scalar value => value.truthy
  | .list items => !items.isEmpty
  | .mapping fields => !fields.isEmpty

def kindName : Value → String
  | .scalar (.time value) => value.kindName
  | .scalar value => Intake.Fault.kindName value.json
  | .list _ => "list"
  | .mapping _ => "dict"

def put (name : Scalar) (value : Value) : List (Scalar × Value) → List (Scalar × Value)
  | [] => [(name, value)]
  | (n, v) :: rest => if n.same name then (n, value) :: rest else (n, v) :: put name value rest

def field? (name : Scalar) (fields : List (Scalar × Value)) : Option Value :=
  (fields.find? fun field => field.1.same name).map (·.2)

theorem put_ne_nil (name : Scalar) (value : Value) (fields : List (Scalar × Value)) :
    put name value fields ≠ [] := by
  cases fields with
  | nil => simp [put]
  | cons field rest => by_cases h : field.1.same name <;> simp [put, h]

def scalarOf : Token → Except ScalarError Scalar
  | .plain text => Scalar.ofPlain text
  | .quoted text => .ok (.text (String.ofList text))

def faultOf? (token : Token) : Option ScalarError :=
  match scalarOf token with
  | .ok _ => none
  | .error error => some error

mutual

def ofNode : Node → Except ScalarError Value
  | .leaf token => (scalarOf token).map .scalar
  | .list items => (ofItems items).map .list
  | .mapping fields => (ofFields [] fields).map .mapping
termination_by structural n => n

def ofItems : List Node → Except ScalarError (List Value)
  | [] => .ok []
  | x :: xs => do
    let value ← ofNode x
    return value :: (← ofItems xs)
termination_by structural n => n

def ofFields (read : List (Scalar × Value)) :
    List (Token × Node) → Except ScalarError (List (Scalar × Value))
  | [] => .ok read
  | x :: xs => do
    let (name, value) ← ofField x
    ofFields (put name value read) xs
termination_by structural n => n

def ofField : Token × Node → Except ScalarError (Scalar × Value)
  | (name, x) => do return (← scalarOf name, ← ofNode x)
termination_by structural n => n

end

/-- The value of a document. Of several scalars that cannot be read the one with the
fewest lists and mappings around it is reported. -/
def ofText (text : String) : Except ScalarError Value :=
  let node := Node.ofText text
  match node.levels.flatten.findSome? faultOf? with
  | some error => .error error
  | none => ofNode node

end Value

end Flowplan.Block
