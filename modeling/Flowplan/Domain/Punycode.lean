/-!
# Punycode

Letters of all scripts written with ASCII letters, digits and hyphens alone: first the ASCII
characters as they are, then for each further character in ascending order where it is to be
inserted. The places are numbers with digits of variable weight, which adapts to the numbers before.
-/

namespace Flowplan.Domain.Punycode

def digit (n : Nat) : Char := if n < 26 then Char.ofNat (0x61 + n) else Char.ofNat (0x30 + n - 26)

def digitValue (c : Char) : Option Nat :=
  if c.isLower then some (c.toNat - 0x61)
  else if c.isUpper then some (c.toNat - 0x41)
  else if c.isDigit then some (c.toNat - 0x30 + 26)
  else none

def threshold (place bias : Nat) : Nat := min 26 (max 1 (place - bias))

theorem threshold_pos (place bias : Nat) : 0 < threshold place bias := by
  simp only [threshold]; omega

def shrink (n steps : Nat) : Nat × Nat :=
  if 455 < n then shrink (n / 35) (steps + 36) else (n, steps)
termination_by n
decreasing_by omega

def adapt (n count : Nat) (isFirst : Bool) : Nat :=
  let n := if isFirst then n / 700 else n / 2
  let (n, steps) := shrink (n + n / count) 0
  steps + 36 * n / (n + 38)

def digits (bias place n : Nat) : List Char :=
  let t := threshold place bias
  if n < t then [digit n]
  else digit (t + (n - t) % (36 - t)) :: digits bias (place + 36) ((n - t) / (36 - t))
termination_by n
decreasing_by
  have := threshold_pos place bias
  exact Nat.lt_of_le_of_lt (Nat.div_le_self _ _) (by omega)

structure Writing where
  written : List Char
  distance : Nat
  bias : Nat
  count : Nat

def Writing.pass (basic point : Nat) (w : Writing) (c : Char) : Writing :=
  if c.toNat < point then { w with distance := w.distance + 1 }
  else if c.toNat == point then
    { written := (digits w.bias 36 w.distance).reverse ++ w.written
      distance := 0
      bias := adapt w.distance (w.count + 1) (w.count == basic)
      count := w.count + 1 }
  else w

def insertions (text : List Char) (basic : Nat) : List Nat → Nat → Writing → List Char
  | [], _, w => w.written.reverse
  | point :: points, next, w =>
    let w := { w with distance := w.distance + (point - next) * (w.count + 1) }
    let w := text.foldl (·.pass basic point ·) w
    insertions text basic points (point + 1) { w with distance := w.distance + 1 }

def isBasic (c : Char) : Bool := c.toNat < 128

def encode (text : List Char) : List Char :=
  let basic := text.filter isBasic
  let points := ((text.filter (!isBasic ·)).map Char.toNat).mergeSort.eraseReps
  basic ++ (if basic.isEmpty then [] else ['-'])
    ++ insertions text basic.length points 128 ⟨[], 0, 72, basic.length⟩

def number (bias : Nat) : Nat → Nat → Nat → List Char → Option (Nat × List Char)
  | _, _, _, [] => none
  | place, weight, sum, c :: cs =>
    (digitValue c).bind fun d =>
      let sum := sum + d * weight
      let t := threshold place bias
      if d < t then some (sum, cs) else number bias (place + 36) (weight * (36 - t)) sum cs

structure Reading where
  read : List Nat
  point : Nat
  place : Nat
  bias : Nat
  isFirst : Bool

def insertAll : Nat → Reading → List Char → Option (List Nat)
  | _, r, [] => some r.read
  | 0, _, _ => none
  | fuel + 1, r, cs =>
    (number r.bias 36 1 0 cs).bind fun (n, rest) =>
      let count := r.read.length + 1
      let point := r.point + (r.place + n) / count
      let place := (r.place + n) % count
      if 0x10FFFF < point then none
      else insertAll fuel ⟨r.read.insertIdx place point, point, place + 1,
        adapt n count r.isFirst, false⟩ rest

def decode (text : List Char) : Option (List Nat) :=
  let tail := (text.reverse.takeWhile (· != '-')).reverse
  let basic := text.take (text.length - tail.length - 1)
  insertAll tail.length ⟨basic.map Char.toNat, 128, 0, 72, true⟩ tail

end Flowplan.Domain.Punycode
