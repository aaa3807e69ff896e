import Flowplan.Entries
import Flowplan.Number.Double

namespace Flowplan

inductive Json
  | null
  | bool (value : Bool)
  | int (value : Int)
  | float (value : Double)
  | str (value : String)
  | arr (items : List Json)
  | obj (fields : List (String × Json))
deriving Inhabited

namespace Json

mutual

def decEq : (a b : Json) → Decidable (a = b)
  | .null, b => match b with
    | .null => .isTrue rfl
    | .bool _ | .int _ | .float _ | .str _ | .arr _ | .obj _ => .isFalse nofun
  | .bool a, b => match b with
    | .bool b => decidable_of_iff (a = b) (by simp)
    | .null | .int _ | .float _ | .str _ | .arr _ | .obj _ => .isFalse nofun
  | .int a, b => match b with
    | .int b => decidable_of_iff (a = b) (by simp)
    | .null | .bool _ | .float _ | .str _ | .arr _ | .obj _ => .isFalse nofun
  | .float a, b => match b with
    | .float b => decidable_of_iff (a = b) (by simp)
    | .null | .bool _ | .int _ | .str _ | .arr _ | .obj _ => .isFalse nofun
  | .str a, b => match b with
    | .str b => decidable_of_iff (a = b) (by simp)
    | .null | .bool _ | .int _ | .float _ | .arr _ | .obj _ => .isFalse nofun
  | .arr a, b => match b with
    | .arr b => @decidable_of_iff _ (a = b) (by simp) (decEqItems a b)
    | .null | .bool _ | .int _ | .float _ | .str _ | .obj _ => .isFalse nofun
  | .obj a, b => match b with
    | .obj b => @decidable_of_iff _ (a = b) (by simp) (decEqFields a b)
    | .null | .bool _ | .int _ | .float _ | .str _ | .arr _ => .isFalse nofun
termination_by structural a => a

def decEqItems : (a b : List Json) → Decidable (a = b)
  | [], [] => .isTrue rfl
  | x :: xs, y :: ys =>
    @decidable_of_iff _ (x = y ∧ xs = ys) (by simp)
      (@instDecidableAnd _ _ (decEq x y) (decEqItems xs ys))
  | [], _ :: _ | _ :: _, [] => .isFalse nofun
termination_by structural a => a

def decEqFields : (a b : List (String × Json)) → Decidable (a = b)
  | [], [] => .isTrue rfl
  | x :: xs, y :: ys =>
    @decidable_of_iff _ (x = y ∧ xs = ys) (by simp)
      (@instDecidableAnd _ _ (decEqField x y) (decEqFields xs ys))
  | [], _ :: _ | _ :: _, [] => .isFalse nofun
termination_by structural a => a

def decEqField : (a b : String × Json) → Decidable (a = b)
  | (k, x), (l, y) =>
    @decidable_of_iff _ (k = l ∧ x = y) (by simp) (@instDecidableAnd _ _ _ (decEq x y))
termination_by structural a => a

end

instance : DecidableEq Json := decEq

mutual

def depth : Json → Nat
  | .arr items => depthItems items + 1
  | .obj fields => depthFields fields + 1
  | _ => 0
termination_by structural j => j

def depthItems : List Json → Nat
  | [] => 0
  | x :: xs => max (depth x) (depthItems xs)
termination_by structural j => j

def depthFields : List (String × Json) → Nat
  | [] => 0
  | x :: xs => max (depthField x) (depthFields xs)
termination_by structural j => j

def depthField : String × Json → Nat
  | (_, x) => depth x
termination_by structural j => j

end

mutual

def isFinite : Json → Bool
  | .float x => x.isFinite
  | .arr items => isFiniteItems items
  | .obj fields => isFiniteFields fields
  | _ => true
termination_by structural j => j

def isFiniteItems : List Json → Bool
  | [] => true
  | x :: xs => isFinite x && isFiniteItems xs
termination_by structural j => j

def isFiniteFields : List (String × Json) → Bool
  | [] => true
  | x :: xs => isFiniteField x && isFiniteFields xs
termination_by structural j => j

def isFiniteField : String × Json → Bool
  | (_, x) => isFinite x
termination_by structural j => j

end

def ofText? : Option String → Json
  | none => .null
  | some text => .str text

def field? (name : String) : Json → Option Json
  | .obj fields => fields.lookup name
  | _ => none

/-- Whether a value counts as true: nothing, false, zero and the empty
text, list and object do not. -/
def truthy : Json → Bool
  | .null => false
  | .bool b => b
  | .int n => n != 0
  | .float x => !x.isZero
  | .str s => s != ""
  | .arr items => !items.isEmpty
  | .obj fields => !fields.isEmpty

end Json

end Flowplan
