namespace Flowplan.Text

def replacement : Char := '\uFFFD'

def utf8 (text : String) : List UInt8 := text.toUTF8.toList

structure Unfinished where
  left : Nat
  least : Nat
  greatest : Nat
  value : Nat

inductive Lead
  | whole (c : Char)
  | part (begun : Unfinished)
  | broken

/-- The first bytes, and the second bytes that may follow them: neither surrogates nor values
beyond the last character, nor a longer form than needed. -/
def lead (b : Nat) : Lead :=
  if b < 0x80 then .whole (Char.ofNat b)
  else if 0xC2 ≤ b && b < 0xE0 then .part ⟨1, 0x80, 0xBF, b % 32⟩
  else if 0xE0 ≤ b && b < 0xF0 then
    .part ⟨2, if b == 0xE0 then 0xA0 else 0x80, if b == 0xED then 0x9F else 0xBF, b % 16⟩
  else if 0xF0 ≤ b && b < 0xF5 then
    .part ⟨3, if b == 0xF0 then 0x90 else 0x80, if b == 0xF4 then 0x8F else 0xBF, b % 8⟩
  else .broken

def readUtf8 : Option Unfinished → List UInt8 → List Char
  | none, [] => []
  | some _, [] => [replacement]
  | none, b :: rest => fresh b rest
  | some begun, b :: rest =>
    let byte := b.toNat
    if begun.least ≤ byte && byte ≤ begun.greatest then
      let value := begun.value * 64 + byte % 64
      if begun.left ≤ 1 then Char.ofNat value :: readUtf8 none rest
      else readUtf8 (some ⟨begun.left - 1, 0x80, 0xBF, value⟩) rest
    else
      match lead byte with
      | .whole c => replacement :: c :: readUtf8 none rest
      | .part begun => replacement :: readUtf8 (some begun) rest
      | .broken => replacement :: replacement :: readUtf8 none rest
where
  fresh (b : UInt8) (rest : List UInt8) : List Char :=
    match lead b.toNat with
    | .whole c => c :: readUtf8 none rest
    | .part begun => readUtf8 (some begun) rest
    | .broken => replacement :: readUtf8 none rest

def ofUtf8 (bytes : List UInt8) : List Char := readUtf8 none bytes

def base64Digits : List Char :=
  "ABCDEFGHIJKLMNOPQRSTUVWXYZabcdefghijklmnopqrstuvwxyz0123456789+/".toList

def base64Digit (n : Nat) : Char := base64Digits.getD n '='

def base64 : List UInt8 → List Char
  | a :: b :: c :: rest =>
    let n := a.toNat * 65536 + b.toNat * 256 + c.toNat
    base64Digit (n / 262144) :: base64Digit (n / 4096 % 64) :: base64Digit (n / 64 % 64) ::
      base64Digit (n % 64) :: base64 rest
  | [a, b] =>
    let n := a.toNat * 256 + b.toNat
    [base64Digit (n / 1024), base64Digit (n / 16 % 64), base64Digit (n * 4 % 64), '=']
  | [a] => [base64Digit (a.toNat / 4), base64Digit (a.toNat * 16 % 64), '=', '=']
  | [] => []

end Flowplan.Text
