import Flowplan.Number.Double
import Flowplan.Text.Quoted

namespace Flowplan.Text

inductive NumeralError
  | notInteger (base : Nat) (text : String)
  | notNumber (text : String)
  | tooLong (digits : Option Nat)
deriving DecidableEq

def digitLimit : Nat := 4300

def NumeralError.message : NumeralError → String
  | .notInteger base text =>
    s!"invalid literal for int() with base {base}: "
      ++ String.ofList ((quotedChars text.toList).take 200)
  | .notNumber text => "could not convert string to float: " ++ quoted text
  | .tooLong digits =>
    let count := match digits with
      | some n => s!": value has {n} digits"
      | none => ""
    s!"Exceeds the limit ({digitLimit} digits) for integer string conversion{count}; "
      ++ "use sys.set_int_max_str_digits() to increase the limit"

def latinDigit (c : Char) : Char :=
  match digitValue c with
  | some n => Char.ofNat ('0'.toNat + n)
  | none => c

def numeral? (n : Nat) : Except NumeralError String :=
  if n < Nat.pow 10 digitLimit then .ok (toString n) else .error (.tooLong none)

def sign : List Char → Bool × List Char
  | '-' :: cs => (true, cs)
  | '+' :: cs => (false, cs)
  | cs => (false, cs)

def digitIn (base : Nat) (c : Char) : Option Nat :=
  let value := match digitValue c with
    | some n => some n
    | none =>
      if 'a' ≤ c ∧ c ≤ 'f' then some (c.toNat - 'a'.toNat + 10)
      else if 'A' ≤ c ∧ c ≤ 'F' then some (c.toNat - 'A'.toNat + 10)
      else none
  value.filter (· < base)

def digitRun (base : Nat) : List Char → Option (List Nat)
  | [] => some []
  | c :: cs =>
    match digitIn base c with
    | none => none
    | some d =>
      match cs with
      | '_' :: e :: rest => (digitRun base (e :: rest)).map (d :: ·)
      | cs => (digitRun base cs).map (d :: ·)

def digitRun? (base : Nat) (cs : List Char) : Option (List Nat) :=
  (digitRun base cs).filter (!·.isEmpty)

def ofDigits (base : Nat) (digits : List Nat) : Nat := digits.foldl (fun n d => base * n + d) 0

def dropBaseMark (base : Nat) (cs : List Char) : List Char :=
  match base, cs with
  | 16, '0' :: c :: '_' :: rest => if c == 'x' || c == 'X' then rest else cs
  | 16, '0' :: c :: rest => if c == 'x' || c == 'X' then rest else cs
  | _, _ => cs

def leadingDigits (base : Nat) (cs : List Char) : Option (List Nat × Bool) :=
  let run := cs.takeWhile fun c => c == '_' || (digitIn base c).isSome
  (digitRun? base run).map (·, run.length == cs.length)

/-- The integer that a text writes in a base. A decimal numeral is too
long before it is anything else. -/
def integer (base : Nat) (text : String) : Except NumeralError Int :=
  let (negative, body) := sign (trim isWhiteSpace text.toList)
  match leadingDigits base (dropBaseMark base (body.map latinDigit)) with
  | some (digits, complete) =>
    if base == 10 && digitLimit < digits.length then .error (.tooLong (some digits.length))
    else if complete then
      let n := ofDigits base digits
      .ok (if negative then -(n : Int) else n)
    else .error (.notInteger base text)
  | none => .error (.notInteger base text)

def optionalRun (cs : List Char) : Option (List Nat) :=
  if cs.isEmpty then some [] else digitRun? 10 cs

def pointed (cs : List Char) : Option (List Nat × List Nat) :=
  match cs.takeWhile (· != '.'), cs.dropWhile (· != '.') with
  | whole, [] => (digitRun? 10 whole).map (·, [])
  | whole, _ :: fraction => do
    let whole ← optionalRun whole
    let fraction ← optionalRun fraction
    if whole.isEmpty && fraction.isEmpty then none else some (whole, fraction)

def power (cs : List Char) : Option Int :=
  let (negative, body) := sign cs
  (digitRun? 10 body).map fun digits =>
    let n := ofDigits 10 digits
    if negative then -(n : Int) else n

def isExponentMark (c : Char) : Bool := c == 'e' || c == 'E'

def magnitude (negative : Bool) (cs : List Char) : Option Double :=
  let word := String.ofList (cs.map Char.toLower)
  if word == "inf" || word == "infinity" then some (Double.infinity negative)
  else if word == "nan" then some Double.undefined
  else do
    let (whole, fraction) ← pointed (cs.takeWhile (!isExponentMark ·))
    let exponent ← match cs.dropWhile (!isExponentMark ·) with
      | [] => some 0
      | _ :: rest => power rest
    some (Double.ofDecimal negative (ofDigits 10 (whole ++ fraction)) (exponent - fraction.length))

def number (text : String) : Except NumeralError Double :=
  let (negative, body) := sign (trim isWhiteSpace text.toList)
  match magnitude negative body with
  | some x => .ok x
  | none => .error (.notNumber text)

end Flowplan.Text
