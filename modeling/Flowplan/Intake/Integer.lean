import Flowplan.Text.Character
import Flowplan.Text.Segments

/-!
# Integers in texts

Where an integer is expected a text may stand that writes one. White space around it,
a plus, zeros in front, low lines between digits and a fraction of zeros are
ornament; what is left has to be a bare numeral.
-/

namespace Flowplan.Intake

inductive IntegerText
  | value (n : Int)
  | unreadable
  | oversized
deriving DecidableEq

namespace IntegerText

def lengthLimit : Nat := 4300

def decimal (cs : List Char) : Nat := cs.foldl (fun n c => 10 * n + (c.toNat - '0'.toNat)) 0

def minus : List Char → Bool × List Char
  | '-' :: cs => (true, cs)
  | cs => (false, cs)

def ofBare (cs : List Char) : IntegerText :=
  let (negative, body) := minus cs
  let digits := body.takeWhile Char.isDigit
  match body with
  | [] => .unreadable
  | ['0'] => .value 0
  | '0' :: _ => .unreadable
  | _ =>
    if digits.isEmpty then .unreadable
    else if lengthLimit < (if negative then 1 else 0) + digits.length then .oversized
    else if digits.length < body.length then .unreadable
    else .value (if negative then -(decimal digits : Int) else decimal digits)

/-- What follows a zero: more zeros and low lines are dropped up to a digit or a minus; a point
keeps the character before it, and so does the end. -/
def afterZero (last : Char) : List Char → Option (List Char)
  | [] => some [last]
  | c :: cs =>
    if c == '0' || c == '_' then afterZero c cs
    else if c.isDigit || c == '-' then some (c :: cs)
    else if c == '.' then some (last :: c :: cs)
    else none

def dropZeros : List Char → Option (List Char)
  | [] => none
  | c :: cs =>
    if c == '0' then afterZero c cs
    else if c.isDigit || c == '-' then some (c :: cs)
    else none

def dropFraction (cs : List Char) : List Char :=
  match Text.cut '.' cs with
  | (whole, some zeros) => if !zeros.isEmpty && zeros.all (· == '0') then whole else cs
  | (_, none) => cs

def joinGroups (cs : List Char) : Option (List Char) :=
  let groups := Text.segments '_' cs
  if groups.any List.isEmpty then none else some groups.flatten

def plain (cs : List Char) : Option (List Char) := do
  let cs := Text.trim Text.isWhiteSpace cs
  let body ← match cs with
    | '+' :: '-' :: _ => none
    | '+' :: body => some body
    | body => some body
  let (negative, body) := minus body
  let body := dropFraction (← dropZeros body)
  joinGroups (if negative then '-' :: body else body)

/-- A bare numeral is taken as it stands; any other text is tried once more without its ornament. -/
def ofText (cs : List Char) : IntegerText :=
  match ofBare cs with
  | .unreadable =>
    match (plain cs).map ofBare with
    | some (.value n) => .value n
    | _ => .unreadable
  | answer => answer

end IntegerText

end Flowplan.Intake
