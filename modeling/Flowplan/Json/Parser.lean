import Flowplan.Json.Basic
import Flowplan.Text.Numeral

/-!
# Reading JSON text

The reader follows the grammar one construct at a time and stops at the first fault, which
carries the place where it was found. `NaN` and the two infinities are accepted beside the
standard numbers. A strict reader differs on half a surrogate pair, which has no character,
and on how the digits of a number are counted.
-/

namespace Flowplan.Json

inductive Reason
  | value
  | fieldName
  | colon
  | comma
  | openText
  | controlCharacter
  | escape
  | unicodeEscape
  | trailing
  | longNumber (digits : Nat)
deriving DecidableEq

def Reason.message : Reason → String
  | .value => "Expecting value"
  | .fieldName => "Expecting property name enclosed in double quotes"
  | .colon => "Expecting ':' delimiter"
  | .comma => "Expecting ',' delimiter"
  | .openText => "Unterminated string starting at"
  | .controlCharacter => "Invalid control character at"
  | .escape => "Invalid \\escape"
  | .unicodeEscape => "Invalid \\uXXXX escape"
  | .trailing => "Extra data"
  | .longNumber digits => (Text.NumeralError.tooLong (some digits)).message

structure ParseError where
  reason : Reason
  offset : Nat
  line : Nat
  column : Nat
deriving DecidableEq

/-- Where a number is too long the text may be JSON all the same. -/
def ParseError.isOverflow (e : ParseError) : Bool :=
  match e.reason with
  | .longNumber _ => true
  | _ => false

def ParseError.message (e : ParseError) : String :=
  if e.isOverflow then e.reason.message
  else s!"{e.reason.message}: line {e.line} column {e.column} (char {e.offset})"

inductive Strictness
  | lenient
  | strict
deriving DecidableEq

namespace Parser

structure Fault where
  reason : Reason
  rest : List Char

def fail {α : Type} (reason : Reason) (rest : List Char) : Except Fault α := .error ⟨reason, rest⟩

def isBlank (c : Char) : Bool := c == ' ' || c == '\t' || c == '\n' || c == '\r'

def skipBlank (cs : List Char) : List Char := cs.dropWhile isBlank

def digitsValue (digits : List Char) : Nat :=
  digits.foldl (fun n c => 10 * n + (c.toNat - '0'.toNat)) 0

def fraction : List Char → Option (List Char) × List Char
  | '.' :: cs =>
    let digits := cs.takeWhile Char.isDigit
    if digits.isEmpty then (none, '.' :: cs) else (some digits, cs.dropWhile Char.isDigit)
  | cs => (none, cs)

def exponentDigits (cs : List Char) : Option Int × List Char :=
  let (negative, body) := match cs with
    | '-' :: rest => (true, rest)
    | '+' :: rest => (false, rest)
    | rest => (false, rest)
  let digits := body.takeWhile Char.isDigit
  if digits.isEmpty then (none, cs)
  else (some (if negative then -(digitsValue digits : Int) else digitsValue digits),
    body.dropWhile Char.isDigit)

def exponent (cs : List Char) : Option Int × List Char :=
  match cs with
  | c :: rest =>
    if c == 'e' || c == 'E' then
      match exponentDigits rest with
      | (some n, rest) => (some n, rest)
      | (none, _) => (none, cs)
    else (none, cs)
  | [] => (none, [])

def whole : List Char → List Char × List Char
  | '0' :: rest => (['0'], rest)
  | cs => (cs.takeWhile Char.isDigit, cs.dropWhile Char.isDigit)

def unsigned (negative : Bool) (cs : List Char) : Option (Json × List Char) :=
  let (whole, rest) := whole cs
  if whole.isEmpty then none
  else
    let (fractional, rest) := fraction rest
    let (power, rest) := exponent rest
    match fractional, power with
    | none, none =>
      let n := digitsValue whole
      some (.int (if negative then -(n : Int) else n), rest)
    | _, _ =>
      let tail := fractional.getD []
      some (.float (Double.ofDecimal negative (digitsValue (whole ++ tail))
          (power.getD 0 - tail.length)), rest)

def hexUnit (cs : List Char) : Option Nat :=
  if (cs.drop 4).isEmpty then none else Text.hexNumber? 4 cs

def lowUnit : List Char → Option Nat
  | '\\' :: 'u' :: cs => (hexUnit cs).filter Text.isLow
  | _ => none

/-- The character of an escape, after its backslash; `whole` is the text from the backslash on. -/
def escaped (strictness : Strictness) (whole : List Char) :
    List Char → Except Fault (Char × List Char)
  | 'u' :: cs =>
    match hexUnit cs with
    | none => fail .unicodeEscape ('u' :: cs)
    | some unit =>
      match if Text.isHigh unit then lowUnit (cs.drop 4) else none with
      | some low => .ok (Text.joinHalves unit low, cs.drop 10)
      | none =>
        if !Text.isHigh unit && !Text.isLow unit then .ok (Char.ofNat unit, cs.drop 4)
        else if strictness = .strict then fail .unicodeEscape ('u' :: cs)
        else .ok ('\uFFFD', cs.drop 4)
  | c :: cs =>
    match [('"', '"'), ('\\', '\\'), ('/', '/'), ('b', '\x08'), ('f', '\x0c'), ('n', '\n'),
      ('r', '\r'), ('t', '\t')].lookup c with
    | some d => .ok (d, cs)
    | none => fail .escape whole
  | [] => fail .openText whole

/-- The characters of a quoted text up to its closing quote; `opening` is the text from its first
quote on. -/
def text (strictness : Strictness) (opening : List Char) :
    Nat → List Char → List Char → Except Fault (List Char × List Char)
  | 0, _, _ => fail .openText opening
  | fuel + 1, read, cs =>
    match cs with
    | [] => fail .openText opening
    | '"' :: rest => .ok (read.reverse, rest)
    | '\\' :: rest =>
      if rest.isEmpty then fail .openText opening
      else do
        let (c, rest) ← escaped strictness cs rest
        text strictness opening fuel (c :: read) rest
    | c :: rest =>
      if c.toNat < 0x20 then fail .controlCharacter cs
      else text strictness opening fuel (c :: read) rest

def quoted (strictness : Strictness) (rest : List Char) : Except Fault (String × List Char) := do
  let (chars, rest) ← text strictness ('"' :: rest) (rest.length + 1) [] rest
  pure (String.ofList chars, rest)

def words : List (List Char × Json) :=
  [("null".toList, .null), ("true".toList, .bool true), ("false".toList, .bool false),
    ("NaN".toList, .float Double.undefined), ("Infinity".toList, .float (Double.infinity false)),
    ("-Infinity".toList, .float (Double.infinity true))]

/-- Whether a number has too many digits: of an integer its digits count, a strict reader counts
the digits before the point of every number, and its sign. -/
def isLong (strictness : Strictness) (negative : Bool) (digits : Nat) (value : Json) : Bool :=
  match strictness, value with
  | .strict, _ => Text.digitLimit < digits + (if negative then 1 else 0)
  | .lenient, .int _ => Text.digitLimit < digits
  | .lenient, _ => false

def scalar (strictness : Strictness) (cs : List Char) : Except Fault (Json × List Char) :=
  match words.find? fun (word, _) => word.isPrefixOf cs with
  | some (word, value) => .ok (value, cs.drop word.length)
  | none =>
    let (negative, body) := match cs with
      | '-' :: rest => (true, rest)
      | _ => (false, cs)
    match unsigned negative body with
    | some (value, rest) =>
      let digits := (whole body).1.length
      if isLong strictness negative digits value then fail (.longNumber digits) cs
      else .ok (value, rest)
    | none => fail .value cs

mutual

def value (strictness : Strictness) : Nat → List Char → Except Fault (Json × List Char)
  | 0, cs => fail .value cs
  | fuel + 1, cs =>
    match cs with
    | '"' :: rest => do
      let (s, rest) ← quoted strictness rest
      pure (.str s, rest)
    | '{' :: rest =>
      match skipBlank rest with
      | '}' :: rest => .ok (.obj [], rest)
      | rest => fields strictness fuel [] rest
    | '[' :: rest =>
      match skipBlank rest with
      | ']' :: rest => .ok (.arr [], rest)
      | rest => items strictness fuel [] rest
    | _ => scalar strictness cs
termination_by structural fuel => fuel

def items (strictness : Strictness) : Nat → List Json → List Char → Except Fault (Json × List Char)
  | 0, _, cs => fail .value cs
  | fuel + 1, read, cs => do
    let (item, rest) ← value strictness fuel cs
    match skipBlank rest with
    | ']' :: rest => .ok (.arr (item :: read).reverse, rest)
    | ',' :: rest => items strictness fuel (item :: read) (skipBlank rest)
    | rest => fail .comma rest
termination_by structural fuel => fuel

def fields (strictness : Strictness) :
    Nat → Entries Json → List Char → Except Fault (Json × List Char)
  | 0, _, cs => fail .value cs
  | fuel + 1, read, cs =>
    match cs with
    | '"' :: rest => do
      let (name, rest) ← quoted strictness rest
      match skipBlank rest with
      | ':' :: rest =>
        let (item, rest) ← value strictness fuel (skipBlank rest)
        let read := read.put name item
        match skipBlank rest with
        | '}' :: rest => .ok (.obj read, rest)
        | ',' :: rest => fields strictness fuel read (skipBlank rest)
        | rest => fail .comma rest
      | rest => fail .colon rest
    | _ => fail .fieldName cs
termination_by structural fuel => fuel

end

def document (strictness : Strictness) (cs : List Char) : Except Fault Json := do
  let (result, rest) ← value strictness (cs.length + 1) (skipBlank cs)
  match skipBlank rest with
  | [] => .ok result
  | rest => .error ⟨.trailing, rest⟩

def Fault.locate (cs : List Char) (fault : Fault) : ParseError :=
  let before := cs.take (cs.length - fault.rest.length)
  ⟨fault.reason, before.length, before.count '\n' + 1,
    (before.reverse.takeWhile (· != '\n')).length + 1⟩

end Parser

def parse (source : String) (strictness : Strictness := .lenient) : Except ParseError Json :=
  (Parser.document strictness source.toList).mapError (Parser.Fault.locate source.toList)

end Flowplan.Json
