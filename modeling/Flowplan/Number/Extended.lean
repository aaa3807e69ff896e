import Flowplan.Number.Decimal

/-!
# Numbers of sixty-four significant bits

Decimals that are read with a significand of sixty-four bits and then rounded to a
double. The powers of ten are multiplied in one after another, each product rounded, so
the result may be the neighbour of the nearest double.
-/

namespace Flowplan

structure Extended where
  significand : Nat
  exponent : Int
deriving DecidableEq

namespace Extended

def significandBits : Nat := 64

def ofQuotient (num den : Nat) : Extended :=
  if num == 0 then ⟨0, 0⟩
  else
    let scaled (exponent : Int) : Nat × Nat :=
      (num * Nat.pow 2 (-exponent).toNat, den * Nat.pow 2 exponent.toNat)
    let guess : Int := (num.log2 : Int) - den.log2 - significandBits
    let (n, d) := scaled guess
    let exponent := if n / d < Nat.pow 2 significandBits then guess else guess + 1
    let (n, d) := scaled exponent
    ⟨Double.roundHalfEven n d, exponent⟩

def mul (x y : Extended) : Extended :=
  let product := x.significand * y.significand
  let exponent := x.exponent + y.exponent
  ofQuotient (product * Nat.pow 2 exponent.toNat) (Nat.pow 2 (-exponent).toNat)

def powerOfTen (power : Int) : Extended :=
  ofQuotient (Nat.pow 10 power.toNat) (Nat.pow 10 (-power).toNat)

def toDouble (negative : Bool) (x : Extended) : Double :=
  Double.ofQuotient negative (x.significand * Nat.pow 2 x.exponent.toNat)
    (Nat.pow 2 (-x.exponent).toNat)

def fullFrom : Nat := 1844674407370955160

def leading (read : Nat) : List Char → Nat × Nat
  | [] => (read, 0)
  | c :: cs =>
    let read := 10 * read + (c.toNat - '0'.toNat)
    if fullFrom ≤ read then (read, cs.length) else leading read cs

def shift : Nat → Nat → Nat × Nat
  | significand, 0 => (significand, 0)
  | significand, power + 1 =>
    if significand < 1844674407370954956 then shift (10 * significand) power
    else (significand, power + 1)

/-- A number times a hundredth, tenth and single power of ten as often as the power asks for, in
this order. -/
def scale (x : Extended) (power : Int) : Extended :=
  let unit (n : Int) : Extended := powerOfTen (if power < 0 then -n else n)
  let times (count : Nat) (n : Int) (x : Extended) : Extended := count.repeat (·.mul (unit n)) x
  let size := power.natAbs
  times (size % 10) 1 (times (size % 100 / 10) 10 (times (size / 100) 100 x))

def readDecimal (negative : Bool) (digits : Nat) (exponent : Int) : Double :=
  let (significand, left) := leading 0 (Nat.toDigits 10 digits)
  let exponent := exponent + left
  if exponent ≤ 0 then (scale ⟨significand, 0⟩ exponent).toDouble negative
  else
    let (significand, power) := shift significand exponent.toNat
    (scale ⟨significand, 0⟩ power).toDouble negative

def reread (x : Double) : Double :=
  match x.read with
  | .finite negative significand exponent =>
    let d := Double.shortest significand exponent
    readDecimal negative d.digits d.exponent
  | _ => x

end Extended

end Flowplan
