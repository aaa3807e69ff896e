import Flowplan.Intake.Fault
import Flowplan.Intake.Integer

namespace Flowplan.Intake

inductive Reading (α : Type)
  | good (value : α)
  | bad (faults : List Fault)

namespace Reading

variable {α β γ : Type}

def faults : Reading α → List Fault
  | .good _ => []
  | .bad faults => faults

def both (f : α → β → γ) : Reading α → Reading β → Reading γ
  | .good a, .good b => .good (f a b)
  | a, b => .bad (a.faults ++ b.faults)

instance : Applicative Reading where
  pure := .good
  seq f x := both (· ·) f (x ())

def andThen : Reading α → (α → Reading β) → Reading β
  | .good a, f => f a
  | .bad faults, _ => .bad faults

def toExcept : Reading α → Except (List Fault) α
  | .good a => .ok a
  | .bad faults => .error faults

def under (step : Step) : Reading α → Reading α
  | .good a => .good a
  | .bad faults => .bad (faults.map fun fault => { fault with path := step :: fault.path })

@[simp] theorem pure_eq (a : α) : (pure a : Reading α) = .good a := rfl

@[simp] theorem both_good (f : α → β → γ) (a : α) (b : β) :
    both f (.good a) (.good b) = .good (f a b) := rfl

@[simp] theorem under_good (step : Step) (a : α) : under step (.good a) = .good a := rfl

@[simp] theorem seq_good (f : α → β) (a : α) : (Reading.good f <*> Reading.good a) = .good (f a) :=
  rfl

@[simp] theorem map_good (f : α → β) (a : α) : f <$> Reading.good a = .good (f a) := rfl

theorem both_eq_good_iff {f : α → β → γ} {x : Reading α} {y : Reading β} {c : γ} :
    both f x y = .good c ↔ ∃ a b, x = .good a ∧ y = .good b ∧ f a b = c := by
  cases x <;> cases y <;> simp [both]

theorem seq_eq_good_iff {f : Reading (α → β)} {x : Reading α} {b : β} :
    f <*> x = .good b ↔ ∃ g a, f = .good g ∧ x = .good a ∧ g a = b := both_eq_good_iff

theorem map_eq_good_iff {f : α → β} {x : Reading α} {b : β} :
    f <$> x = .good b ↔ ∃ a, x = .good a ∧ f a = b := by
  change (Reading.good f <*> x) = .good b ↔ _
  simp [seq_eq_good_iff]

theorem under_eq_good_iff {step : Step} {x : Reading α} {a : α} :
    under step x = .good a ↔ x = .good a := by
  cases x <;> simp [under]

end Reading

def refuse {α : Type} (cause : Cause) (input : Json) : Reading α := .bad [⟨[], cause, input⟩]

def anything (value : Json) : Reading Json := .good value

def text : Json → Reading String
  | .str s => .good s
  | value => refuse .notText value

def someText : Json → Reading String
  | .str s => if s == "" then refuse .emptyText (.str s) else .good s
  | value => refuse .notText value

def optional {α : Type} (read : Json → Reading α) : Json → Reading (Option α)
  | .null => .good none
  | value => some <$> read value

def object : Json → Reading (Entries Json)
  | .obj fields => .good fields
  | value => refuse .notObject value

def isWord (n : Int) : Bool := -9223372036854775808 ≤ n && n < 9223372036854775808

def isSignedWord (n : Int) : Bool := isWord n && isWord (-n)

/-- An integer in any of its spellings: a truth value counts as one or zero, a
whole number as itself unless it is too large. -/
def integer : Json → Reading Int
  | .int n => .good n
  | .bool b => .good (if b then 1 else 0)
  | .float x =>
    match x.read with
    | .finite _ _ _ =>
      match x.toInt? with
      | some n => if isSignedWord n then .good n else refuse .oversized (.float x)
      | none => refuse .fractional (.float x)
    | _ => refuse .notFinite (.float x)
  | .str s =>
    match IntegerText.ofText s.toList with
    | .value n => .good n
    | .unreadable => refuse .notIntegerText (.str s)
    | .oversized => refuse .oversized (.str s)
  | value => refuse .notInteger value

def count (value : Json) : Reading Nat :=
  (integer value).andThen fun n => if n < 0 then refuse .negative value else .good n.toNat

def trueWords : List String := ["1", "true", "t", "yes", "y", "on"]

def falseWords : List String := ["0", "false", "f", "no", "n", "off"]

def bit? : Int → Option Bool
  | 0 => some false
  | 1 => some true
  | _ => none

def bit (n : Int) (input : Json) : Reading Bool :=
  match bit? n with
  | some b => .good b
  | none => refuse (if isWord n then .notBooleanText else .notBoolean) input

def boolean : Json → Reading Bool
  | .bool b => .good b
  | .int n => bit n (.int n)
  | .float x =>
    match x.toInt?.filter isSignedWord with
    | some n => bit n (.float x)
    | none => refuse .notBoolean (.float x)
  | .str s =>
    let word := String.ofList (s.toList.map Char.toLower)
    if trueWords.contains word then .good true
    else if falseWords.contains word then .good false
    else refuse .notBooleanText (.str s)
  | value => refuse .notBoolean value

def choice {α : Type} (options : List (String × α)) (value : Json) : Reading α :=
  match value with
  | .str s =>
    match options.lookup s with
    | some a => .good a
    | none => refuse (.notChoice (options.map (·.1))) value
  | _ => refuse (.notChoice (options.map (·.1))) value

def items {α : Type} (read : Json → Reading α) : Nat → List Json → Reading (List α)
  | _, [] => .good []
  | position, value :: rest =>
    Reading.both (· :: ·) ((read value).under (.index position)) (items read (position + 1) rest)

def list {α : Type} (read : Json → Reading α) : Json → Reading (List α)
  | .arr values => items read 0 values
  | value => refuse .notList value

def someList {α : Type} (read : Json → Reading α) : Json → Reading (List α)
  | .arr [] => refuse .emptyList (.arr [])
  | value => list read value

def record {α : Type} (name : String) (read : Entries Json → Reading α) : Json → Reading α
  | .obj fields => read fields
  | value => refuse (.notRecord name) value

def field? (fields : Entries Json) (name : String) (second : Option String) :
    Option (String × Json) :=
  match fields.lookup name with
  | some value => some (name, value)
  | none => second.bind fun second => (fields.lookup second).map (second, ·)

def required {α : Type} (fields : Entries Json) (name : String) (read : Json → Reading α)
    (second : Option String := none) : Reading α :=
  match field? fields name second with
  | some (found, value) => (read value).under (.name found)
  | none => .bad [⟨[.name name], .missing, .obj fields⟩]

def defaulted {α : Type} (fields : Entries Json) (name : String) (fallback : α)
    (read : Json → Reading α) (second : Option String := none) : Reading α :=
  match field? fields name second with
  | some (found, value) => (read value).under (.name found)
  | none => .good fallback

end Flowplan.Intake
