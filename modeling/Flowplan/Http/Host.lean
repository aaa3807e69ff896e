import Flowplan.Domain.Name
import Flowplan.Text.Bytes
import Flowplan.Text.Case

namespace Flowplan.Http

def hexDigit (n : Nat) : Char := (Nat.digitChar n).toUpper

def escapeByte (byte : UInt8) : List Char :=
  ['%', hexDigit (byte.toNat / 16), hexDigit (byte.toNat % 16)]

def escapeChar (c : Char) : List Char := (Text.utf8 c.toString).flatMap escapeByte

def isHexDigit (c : Char) : Bool :=
  c.isDigit || ('a' ≤ c && c ≤ 'f') || ('A' ≤ c && c ≤ 'F')

def escapeAll (safe : Char → Bool) (cs : List Char) : List Char :=
  cs.flatMap fun c => if safe c then [c] else escapeChar c

def escape (safe : Char → Bool) : List Char → List Char
  | [] => []
  | c :: cs =>
    match c, cs with
    | '%', a :: b :: rest =>
      if isHexDigit a && isHexDigit b then '%' :: a :: b :: escape safe rest
      else (if safe '%' then ['%'] else escapeChar '%') ++ escape safe (a :: b :: rest)
    | c, cs => (if safe c then [c] else escapeChar c) ++ escape safe cs

def isVisible (c : Char) : Bool := 0x21 ≤ c.toNat && c.toNat ≤ 0x7E

def isQueryChar (c : Char) : Bool := isVisible c && c ∉ ['"', '#', '<', '>']

def isPathChar (c : Char) : Bool := isQueryChar c && c ∉ ['?', '\x60', '{', '}']

def isFragmentChar (c : Char) : Bool := isVisible c && c ∉ ['"', '<', '>', '\x60']

def isUserChar (c : Char) : Bool :=
  isPathChar c && c ∉ ['/', ';', '=', '@', '[', '\\', ']', '^', '|']

def isServerChar (c : Char) : Bool :=
  c.isAlphanum || c ∈ "-._~!$&'()*+,;=\"\x60\x7b\x7d%|\\".toList

def isPlainChar (c : Char) : Bool := c.isAlphanum || ['-', '.', '_', '~'].contains c

def hexValue (c : Char) : Nat :=
  if c.isDigit then c.toNat - '0'.toNat else c.toLower.toNat - 'a'.toNat + 10

/-- The bytes that an escaped ASCII text stands for; a percent sign
without two digits stands for itself. -/
def unescape : List Char → List UInt8
  | [] => []
  | c :: cs =>
    match c, cs with
    | '%', a :: b :: rest =>
      if isHexDigit a && isHexDigit b then UInt8.ofNat (hexValue a * 16 + hexValue b) ::
        unescape rest
      else '%'.toUInt8 :: unescape (a :: b :: rest)
    | c, cs => c.toUInt8 :: unescape cs

inductive HostError
  | notQuad (host : String)
  | notHextets (host : String)
  | notDomain (host : String)
deriving DecidableEq

namespace Host

/-- Runs of digits, with one character of any kind between each two; a run is cut where it holds
more than one number. Four numbers have to come out. -/
def looksNumeric (host : List Char) : Bool :=
  let runs := Text.segments '.' (host.map fun c => if c.isDigit then c else '.')
  let spare := runs.foldl (fun n run => n + (run.length - 1) / 2) 0
  runs.all (!·.isEmpty) && runs.length ≤ 4 && 4 ≤ runs.length + spare

def decimal (digits : List Char) : Nat := digits.foldl (fun n c => 10 * n + (c.toNat - '0'.toNat)) 0

def isOctet (cs : List Char) : Bool :=
  !cs.isEmpty && cs.length ≤ 3 && cs.all Char.isDigit && (cs.length == 1 || cs.head? != some '0')
    && decimal cs < 256

def isQuad (cs : List Char) : Bool :=
  let parts := Text.segments '.' cs
  parts.length == 4 && parts.all isOctet

def isHextet (cs : List Char) : Bool := !cs.isEmpty && cs.length ≤ 4 && cs.all isHexDigit

def hextetParts (cs : List Char) : Option (List (List Char)) :=
  let parts := Text.segments ':' cs
  match parts.getLast? with
  | some last =>
    if parts.length < 3 then none
    else if last.contains '.' then
      if isQuad last then some (parts.dropLast ++ [['0'], ['0']]) else none
    else some parts
  | none => none

/-- Eight hextets, or fewer with one gap, which is an empty part inside; at the ends of
the address the gap has another empty part. -/
def isHextets (cs : List Char) : Bool :=
  match hextetParts cs with
  | none => false
  | some parts =>
    let inner := parts.drop 1
    let before := (parts.head?.toList ++ inner.dropLast.takeWhile (!·.isEmpty))
    if before.length == parts.length - 1 || parts.length ≤ before.length then
      parts.length == 8 && parts.all isHextet
    else
      let after := parts.drop (before.length + 1)
      let before := if before == [[]] then [] else before
      let after := if after == [[]] then [] else after
      parts.length ≤ 9 && before.all isHextet && after.all isHextet && before.length +
        after.length < 8

def isNumber (cs : List Char) : Bool :=
  match Text.cut '%' cs with
  | (address, none) => isHextets address
  | (address, some zone) => !zone.isEmpty && !zone.contains '%' && isHextets address

def unbracket (host : List Char) : Option (List Char) :=
  if host.head? == some '[' && host.getLast? == some ']' && 2 ≤ host.length then
    some (host.drop 1).dropLast
  else none

def read (host : List Char) : Except HostError (List Char) :=
  if host.isEmpty then .ok []
  else if looksNumeric host then
    if isQuad host then .ok host else .error (.notQuad (String.ofList host))
  else
    match unbracket host with
    | some number =>
      if isNumber number then .ok number else .error (.notHextets (String.ofList host))
    | none =>
      if host.all Domain.Punycode.isBasic then .ok (escape isServerChar (host.map Char.toLower))
      else
        match Domain.asciiName (Text.lowercase host) with
        | some name => .ok name
        | none => .error (.notDomain (String.ofList host))

end Host

end Flowplan.Http
