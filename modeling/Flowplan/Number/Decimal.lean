import Flowplan.Number.Double

/-!
# Decimals of doubles

Among the decimals that round to a given number, the one with the fewest digits and, of those, the
nearest to the number. The search tries one digit, then two, up to seventeen, on exact naturals. A
layout says from where on a decimal is written with an exponent.
-/

namespace Flowplan.Double

structure Decimal where
  digits : Nat
  exponent : Int
deriving DecidableEq

namespace Decimal

def trim : Nat → Decimal → Decimal
  | 0, d => d
  | fuel + 1, d =>
    if d.digits != 0 && d.digits % 10 == 0 then trim fuel ⟨d.digits / 10, d.exponent + 1⟩ else d

def compareBinary (d : Decimal) (units : Nat) (binary : Int) : Ordering :=
  compare (d.digits * Nat.pow 10 d.exponent.toNat * Nat.pow 2 (-binary).toNat)
    (units * Nat.pow 2 binary.toNat * Nat.pow 10 (-d.exponent).toNat)

end Decimal

/-- The decimals that round to `significand · 2 ^ exponent`: between the two midpoints, which belong
to it when the significand is even. Below a power of two the lower midpoint is half as far. -/
def readsBack (significand : Nat) (exponent : Int) (d : Decimal) : Bool :=
  let narrow := significand == Nat.pow 2 52 && leastExponent < exponent
  let low := d.compareBinary (4 * significand - if narrow then 1 else 2) (exponent - 2)
  let high := d.compareBinary (4 * significand + 2) (exponent - 2)
  if significand % 2 == 0 then low != .lt && high != .gt else low == .gt && high == .lt

/-- The least `k` with `significand · 2 ^ exponent < 10 ^ k`, for a positive significand. -/
def decimalScale (significand : Nat) (exponent : Int) : Int :=
  let guess := ((significand.log2 : Int) + exponent) * 1233 / 4096 - 1
  let fits (k : Int) := Decimal.compareBinary ⟨1, k⟩ significand exponent == .gt
  (([0, 1, 2, 3].map (guess + ·)).find? fits).getD (guess + 4)

/-- Of the two neighbours of the number on the grid `10 ^ step`, the
one that reads back, the nearer if both do. -/
def nearestOnGrid (significand : Nat) (exponent step : Int) : Option Decimal :=
  let floor := significand * Nat.pow 2 exponent.toNat * Nat.pow 10 (-step).toNat
    / (Nat.pow 2 (-exponent).toNat * Nat.pow 10 step.toNat)
  let below : Decimal := ⟨floor, step⟩
  let above : Decimal := ⟨floor + 1, step⟩
  match readsBack significand exponent below, readsBack significand exponent above with
  | true, false => some below
  | false, true => some above
  | false, false => none
  | true, true =>
    match Decimal.compareBinary ⟨2 * floor + 1, step⟩ (2 * significand) exponent with
    | .lt => some above
    | .gt => some below
    | .eq => some (if floor % 2 == 0 then below else above)

def exactDecimal (significand : Nat) (exponent : Int) : Decimal :=
  ⟨significand * Nat.pow 2 exponent.toNat * Nat.pow 5 (-exponent).toNat, min exponent 0⟩

def shortest (significand : Nat) (exponent : Int) : Decimal :=
  if significand == 0 then ⟨0, 0⟩
  else
    let scale := decimalScale significand exponent
    let found := (List.range 17).findSome? fun (n : Nat) =>
      nearestOnGrid significand exponent (scale - (n + 1 : Nat))
    (found.getD (exactDecimal significand exponent)).trim 20

end Flowplan.Double

namespace Flowplan

structure NumberLayout where
  positionalFrom : Int
  exponentFrom : Int
  exponentWidth : Nat
  infinity : String
  undefined : String

def decimalDigits (n : Nat) : List Char := Nat.toDigits 10 n

namespace NumberLayout

def padLeft (width : Nat) (digits : List Char) : List Char :=
  List.replicate (width - digits.length) '0' ++ digits

def writeExponent (layout : NumberLayout) (exponent : Int) : List Char :=
  (if exponent < 0 then '-' else '+') ::
    padLeft layout.exponentWidth (decimalDigits exponent.natAbs)

def writePositional (digits : List Char) (point : Int) : List Char :=
  if point ≤ 0 then '0' :: '.' :: List.replicate (-point).toNat '0' ++ digits
  else if (digits.length : Int) ≤ point then
    digits ++ List.replicate (point.toNat - digits.length) '0' ++ ['.', '0']
  else digits.take point.toNat ++ '.' :: digits.drop point.toNat

def writeScientific (layout : NumberLayout) (digits : List Char) (exponent : Int) : List Char :=
  digits.take 1 ++ (if digits.length ≤ 1 then [] else '.' :: digits.drop 1)
    ++ 'e' :: layout.writeExponent exponent

def writeDecimal (layout : NumberLayout) (d : Double.Decimal) : List Char :=
  let digits := decimalDigits d.digits
  let point : Int := digits.length + d.exponent
  if d.digits == 0 then writePositional digits 1
  else if layout.positionalFrom ≤ point - 1 && point - 1 < layout.exponentFrom then
    writePositional digits point
  else layout.writeScientific digits (point - 1)

end NumberLayout

def Double.write (layout : NumberLayout) (x : Double) : String :=
  match x.read with
  | .finite negative significand exponent =>
    String.ofList ((if negative then ['-'] else [])
      ++ layout.writeDecimal (Double.shortest significand exponent))
  | .infinite negative => (if negative then "-" else "") ++ layout.infinity
  | .undefined => layout.undefined

end Flowplan
