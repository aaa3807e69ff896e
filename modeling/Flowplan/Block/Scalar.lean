import Flowplan.Block.Timestamp
import Flowplan.Json.Printer
import Flowplan.Text.Segments

namespace Flowplan.Block

inductive Scalar
  | null
  | truth (value : Bool)
  | whole (value : Int)
  | real (value : Double)
  | text (value : String)
  | time (value : Timestamp)
deriving DecidableEq

inductive ScalarError
  | numeral (error : Text.NumeralError)
  | timestamp (error : TimestampError)
deriving DecidableEq

def ScalarError.message : ScalarError → String
  | .numeral error => error.message
  | .timestamp error => error.message

namespace Scalar

def json : Scalar → Json
  | .null => .null
  | .truth value => .bool value
  | .whole value => .int value
  | .real value => .float value
  | .text value => .str value
  | .time value => .str value.display

def display (scalar : Scalar) : String := scalar.json.display

def inspect : Scalar → String
  | .time value => value.inspect
  | scalar => scalar.json.inspect

def truthy (scalar : Scalar) : Bool := scalar.json.truthy

def integer? : Scalar → Option Int
  | .truth value => some (if value then 1 else 0)
  | .whole value => some value
  | .real value => value.toInt?
  | _ => none

def same (a b : Scalar) : Bool :=
  a == b || (a.integer?.isSome && a.integer? == b.integer?)

def nullWords : List String := ["", "~", "null", "Null", "NULL"]

def trueWords : List String := ["yes", "Yes", "YES", "true", "True", "TRUE", "on", "On", "ON"]

def falseWords : List String := ["no", "No", "NO", "false", "False", "FALSE", "off", "Off", "OFF"]

def infinityWords : List String := [".inf", ".Inf", ".INF"]

def undefinedWords : List String := [".nan", ".NaN", ".NAN"]

def isDigitOrLow (c : Char) : Bool := c.isDigit || c == '_'

def isDigits (cs : List Char) : Bool := cs.head?.any Char.isDigit && cs.all isDigitOrLow

def digitsIn (base : Nat) (cs : List Char) : Nat :=
  Text.ofDigits base ((cs.filter (· != '_')).map fun c => (Text.digitIn 16 c).getD 0)

def isSixtieth : List Char → Bool
  | [c] => c.isDigit
  | [c, d] => '0' ≤ c && c ≤ '5' && d.isDigit
  | _ => false

def marked (base : Nat) (cs : List Char) : Except ScalarError Nat :=
  if cs.all (· == '_') then .error (.numeral (.notInteger base "")) else .ok (digitsIn base cs)

def decimal (cs : List Char) : Except ScalarError Nat :=
  let count := (cs.filter (· != '_')).length
  if Text.digitLimit < count then .error (.numeral (.tooLong (some count)))
  else .ok (digitsIn 10 cs)

def natural? (cs : List Char) : Option (Except ScalarError Nat) :=
  let all (p : Char → Bool) (cs : List Char) : Bool :=
    !cs.isEmpty && cs.all fun c => p c || c == '_'
  match cs with
  | ['0'] => some (.ok 0)
  | '0' :: 'b' :: rest =>
    if all (fun c => c == '0' || c == '1') rest then some (marked 2 rest) else none
  | '0' :: 'x' :: rest =>
    if all (fun c => c.isDigit || ('a' ≤ c && c ≤ 'f') || ('A' ≤ c && c ≤ 'F')) rest then
      some (marked 16 rest)
    else none
  | '0' :: rest =>
    if all (fun c => '0' ≤ c && c ≤ '7') rest then some (.ok (digitsIn 8 rest)) else none
  | cs =>
    match Text.segments ':' cs with
    | first :: parts =>
      if isDigits first && parts.all isSixtieth then
        some ((decimal first).map fun n => parts.foldl (fun n part => 60 * n + digitsIn 10 part) n)
      else none
    | [] => none

def integerOf? (cs : List Char) : Option (Except ScalarError Int) :=
  let (negative, body) := Text.sign cs
  (natural? body).map fun n => n.map fun n => if negative then -(n : Int) else n

def power? : List Char → Option Int
  | [] => some 0
  | _ :: c :: rest =>
    if (c == '+' || c == '-') && !rest.isEmpty && rest.all Char.isDigit then
      let n := digitsIn 10 rest
      some (if c == '-' then -(n : Int) else n)
    else none
  | _ => none

def pointed? (cs : List Char) : Option Double := do
  let isMark (c : Char) : Bool := c == 'e' || c == 'E'
  let power ← power? (cs.dropWhile (!isMark ·))
  match Text.cut '.' (cs.takeWhile (!isMark ·)) with
  | (before, some fraction) =>
    if if before.isEmpty then isDigits fraction
    else isDigits before && fraction.all isDigitOrLow then
      let places := (fraction.filter (· != '_')).length
      some (Double.ofDecimal false (digitsIn 10 (before ++ fraction)) (power - places))
    else none
  | _ => none

/-- A number in parts of base sixty, with a point in the last one. Its parts are added
from the last to the first, each sum rounded. -/
def sixtieths? (cs : List Char) : Option Double :=
  match Text.cut '.' cs with
  | (before, some fraction) =>
    match Text.segments ':' before with
    | first :: part :: parts =>
      if isDigits first && (part :: parts).all isSixtieth && fraction.all isDigitOrLow then
        let last := ((part :: parts).getLast?.getD []) ++ '.' :: fraction
        let values := (pointed? last).getD (Double.ofNat 0) ::
          (first :: (part :: parts).dropLast).reverse.map fun part =>
            Double.ofDecimal false (digitsIn 10 part) 0
        let step (sum : Double × Nat) (value : Double) :=
          (sum.1.add (value.mul (Double.ofNat sum.2)), 60 * sum.2)
        some (values.foldl step (Double.ofNat 0, 1)).1
      else none
    | _ => none
  | _ => none

/-- A number that is no integer. A number that begins with its point
has no sign, the infinities apart. -/
def realOf? (cs : List Char) : Option Double :=
  let (negative, body) := Text.sign cs
  let bare := body.length == cs.length
  let magnitude :=
    if infinityWords.contains (String.ofList body) then some (Double.infinity false)
    else if body.head? == some '.' && !bare then none
    else if undefinedWords.contains (String.ofList body) then some Double.undefined
    else (pointed? body).or (sixtieths? body)
  magnitude.map fun x => if negative then x.neg else x

def ofPlain (cs : List Char) : Except ScalarError Scalar :=
  let word := String.ofList cs
  if nullWords.contains word then .ok .null
  else if trueWords.contains word then .ok (.truth true)
  else if falseWords.contains word then .ok (.truth false)
  else
    match realOf? cs, integerOf? cs, Timestamp.ofText? cs with
    | some x, _, _ => .ok (.real x)
    | _, some n, _ => n.map .whole
    | _, _, some t =>
      match t.fault? with
      | some error => .error (.timestamp error)
      | none => .ok (.time t)
    | _, _, _ => .ok (.text word)

end Scalar

end Flowplan.Block
