namespace Flowplan

structure Double where
  bits : UInt64
deriving DecidableEq, Inhabited

namespace Double

/-- What the bits stand for: a signed fraction `significand · 2 ^
exponent`, an infinity, or no number. -/
inductive Reading
  | finite (negative : Bool) (significand : Nat) (exponent : Int)
  | infinite (negative : Bool)
  | undefined
deriving DecidableEq

def leastExponent : Int := -1074

def read (x : Double) : Reading :=
  let bits : Nat := x.bits.toNat
  let negative := bits / Nat.pow 2 63 % 2 == 1
  let field : Nat := bits / Nat.pow 2 52 % Nat.pow 2 11
  let fraction : Nat := bits % Nat.pow 2 52
  if field == 2047 then
    if fraction == 0 then .infinite negative else .undefined
  else if field == 0 then .finite negative fraction leastExponent
  else .finite negative (Nat.pow 2 52 + fraction) ((field : Int) - 1075)

def ofMagnitude (negative : Bool) (magnitude : Nat) : Double :=
  ⟨UInt64.ofNat ((if negative then Nat.pow 2 63 else 0) + magnitude)⟩

def infinity (negative : Bool) : Double := ofMagnitude negative (2047 * Nat.pow 2 52)

def undefined : Double := ofMagnitude false (2047 * Nat.pow 2 52 + Nat.pow 2 51)

def isFinite (x : Double) : Bool :=
  match x.read with
  | .finite _ _ _ => true
  | _ => false

def isZero (x : Double) : Bool :=
  match x.read with
  | .finite _ significand _ => significand == 0
  | _ => false

def roundHalfEven (num den : Nat) : Nat :=
  let floor := num / den
  let rest := 2 * (num % den)
  if rest < den then floor
  else if den < rest then floor + 1
  else floor + floor % 2

private def scaleDown (num den : Nat) (exponent : Int) : Nat × Nat :=
  (num * Nat.pow 2 (-exponent).toNat, den * Nat.pow 2 exponent.toNat)

/-- The number nearest to `num / den`, a half going to the even significand; beyond
the largest finite number it is the infinity. -/
def ofQuotient (negative : Bool) (num den : Nat) : Double :=
  if num == 0 then ofMagnitude negative 0
  else
    let guess := max leastExponent ((num.log2 : Int) - den.log2 - 53)
    let (n, d) := scaleDown num den guess
    let exponent := if n / d < Nat.pow 2 53 then guess else guess + 1
    let (n, d) := scaleDown num den exponent
    let significand := roundHalfEven n d
    let magnitude := (exponent - leastExponent).toNat * Nat.pow 2 52 + significand
    if magnitude < 2047 * Nat.pow 2 52 then ofMagnitude negative magnitude else infinity negative

/-- The number nearest to `digits · 10 ^ exponent`. The two early answers spare
powers of ten that no finite number needs. -/
def ofDecimal (negative : Bool) (digits : Nat) (exponent : Int) : Double :=
  let magnitude := (digits.log2 : Int) * 3 / 10 + exponent
  if digits == 0 || magnitude < -400 then ofMagnitude negative 0
  else if 400 < magnitude then infinity negative
  else ofQuotient negative (digits * Nat.pow 10 exponent.toNat) (Nat.pow 10 (-exponent).toNat)

def truncate (x : Double) : Option Int :=
  match x.read with
  | .finite negative significand exponent =>
    let whole := (significand * Nat.pow 2 exponent.toNat / Nat.pow 2 (-exponent).toNat : Nat)
    some (if negative then -whole else whole)
  | _ => none

def toInt? (x : Double) : Option Int :=
  match x.read with
  | .finite negative significand exponent =>
    let divisor := Nat.pow 2 (-exponent).toNat
    if significand % divisor == 0 then
      let whole := (significand * Nat.pow 2 exponent.toNat / divisor : Nat)
      some (if negative then -whole else whole)
    else none
  | _ => none

end Double

end Flowplan

namespace Flowplan.Double

def units (negative : Bool) (significand : Nat) (exponent : Int) : Int :=
  let n : Nat := significand * Nat.pow 2 (exponent - leastExponent).toNat
  if negative then -(n : Int) else n

def ofUnits (negativeZero : Bool) (units : Int) : Double :=
  if units == 0 then ofMagnitude negativeZero 0
  else ofQuotient (units < 0) units.natAbs (Nat.pow 2 1074)

def add (x y : Double) : Double :=
  match x.read, y.read with
  | .finite s m e, .finite t n f => ofUnits (s && t) (units s m e + units t n f)
  | .undefined, _ | _, .undefined => undefined
  | .infinite s, .infinite t => if s == t then infinity s else undefined
  | .infinite s, _ | _, .infinite s => infinity s

def mul (x y : Double) : Double :=
  match x.read, y.read with
  | .finite s m e, .finite t n f =>
    let exponent := e + f
    if m * n == 0 then ofMagnitude (s != t) 0
    else ofQuotient (s != t) (m * n * Nat.pow 2 exponent.toNat) (Nat.pow 2 (-exponent).toNat)
  | .undefined, _ | _, .undefined => undefined
  | .infinite s, .finite t n _ | .finite t n _, .infinite s =>
    if n == 0 then undefined else infinity (s != t)
  | .infinite s, .infinite t => infinity (s != t)

def neg (x : Double) : Double :=
  match x.read with
  | .finite negative significand exponent =>
    ofUnits (!negative) (-(units negative significand exponent))
  | .infinite negative => infinity (!negative)
  | .undefined => undefined

def ofNat (n : Nat) : Double := ofQuotient false n 1

end Flowplan.Double
