import Flowplan.Text.Bytes
import Flowplan.Text.Character
import Flowplan.Text.CodePage
import Flowplan.Text.Segments

/-!
# Character sets

How bytes write a text. A reader that is lenient finds a text in any bytes; what cannot be read
becomes a replacement character. Where the order of bytes in a unit is not known there is no text.
-/

namespace Flowplan.Text

inductive ByteOrder
  | big
  | little
deriving DecidableEq

inductive Charset
  | utf8
  | markedUtf8
  | utf7
  | ascii
  | latin
  | page (characters : String)
  | utf16 (order : ByteOrder)
  | utf32 (order : ByteOrder)
  | marked (bits : Nat)
  | undefined
  | strictOnly
  | conversion
  | rotation
deriving DecidableEq

inductive DecodeError
  | unmarked (bits : Nat)
  | undefined
  | strictOnly
  | conversion
  | rotation
  | malformed (form : String) (bytes : List UInt8) (position : Nat) (reason : String)
deriving DecidableEq

/-- Names without case, in which low lines stand for all that is
neither letter nor digit nor point. -/
def charsetName (name : String) : String :=
  let isPart (c : Char) : Bool := c.isAlphanum || c == '.'
  let words := (segments '_'
    (name.toList.map fun c => if isPart c then c.toLower else '_')).filter (!·.isEmpty)
  String.ofList (joinWith ['_'] words)

def charsetNames : List (Charset × List String) := [
  (.utf8, ["utf_8", "cp65001", "u8", "utf", "utf8", "utf8_ucs2", "utf8_ucs4"]),
  (.markedUtf8, ["utf_8_sig"]),
  (.utf7, ["utf_7", "u7", "unicode_1_1_utf_7", "utf7"]),
  (.ascii, ["ascii", "646", "ansi_x3.4_1968", "ansi_x3.4_1986", "ansi_x3_4_1968", "cp367",
    "csascii", "ibm367", "iso646_us", "iso_646.irv_1991", "iso_ir_6", "us", "us_ascii"]),
  (.latin, ["latin_1", "8859", "cp819", "csisolatin1", "ibm819", "iso8859", "iso8859_1",
    "iso_8859_1", "iso_8859_1_1987", "iso_ir_100", "l1", "latin", "latin1", "charmap",
    "raw_unicode_escape", "unicode_escape"]),
  (.utf16 .big, ["utf_16_be", "unicodebigunmarked", "utf_16be"]),
  (.utf16 .little, ["utf_16_le", "unicodelittleunmarked", "utf_16le"]),
  (.utf32 .big, ["utf_32_be", "utf_32be"]),
  (.utf32 .little, ["utf_32_le", "utf_32le"]),
  (.marked 16, ["utf_16", "u16", "utf16"]),
  (.marked 32, ["utf_32", "u32", "utf32"]),
  (.undefined, ["undefined"]),
  (.strictOnly, ["idna"]),
  (.conversion, ["hex_codec", "hex", "base64_codec", "base64", "base_64", "bz2_codec", "bz2",
    "zlib_codec", "zip", "zlib", "uu_codec", "uu", "quopri_codec", "quopri", "quoted_printable",
    "quotedprintable"]), (.rotation, ["rot_13", "rot13"])]

def Charset.ofName? (name : String) : Option Charset :=
  let name := charsetName name
  match charsetNames.find? fun (_, names) => names.contains name with
  | some (charset, _) => some charset
  | none => (codePage? name).map .page

def unitValue (order : ByteOrder) (bytes : List UInt8) : Nat :=
  let ordered := match order with
    | .big => bytes
    | .little => bytes.reverse
  ordered.foldl (fun n b => 256 * n + b.toNat) 0

def readUtf16 (order : ByteOrder) : List UInt8 → List Char
  | [] => []
  | [_] => [replacement]
  | a :: b :: rest =>
    let unit := unitValue order [a, b]
    if isHigh unit then
      match rest with
      | [] | [_] => [replacement]
      | c :: d :: after =>
        let next := unitValue order [c, d]
        if isLow next then
          joinHalves unit next :: readUtf16 order after
        else replacement :: readUtf16 order (c :: d :: after)
    else (if isLow unit then replacement else Char.ofNat unit) :: readUtf16 order rest

def readUtf32 (order : ByteOrder) : List UInt8 → List Char
  | a :: b :: c :: d :: rest =>
    let unit := unitValue order [a, b, c, d]
    (if unit.isValidChar then Char.ofNat unit else replacement) :: readUtf32 order rest
  | [] => []
  | _ => [replacement]

structure Shift where
  bits : Nat
  value : Nat
  high : Option Nat

def base64Value (byte : UInt8) : Option Nat :=
  base64Digits.findIdx? (· == Char.ofNat byte.toNat)

def Shift.unit (high : Option Nat) (unit : Nat) : List Char × Option Nat :=
  match high with
  | some first =>
    if isLow unit then ([joinHalves first unit], none)
    else if isHigh unit then ([replacement], some unit)
    else ([replacement, Char.ofNat unit], none)
  | none =>
    if isHigh unit then ([], some unit)
    else ([if isLow unit then replacement else Char.ofNat unit], none)

def Shift.take (shift : Shift) (six : Nat) : List Char × Shift :=
  let bits := shift.bits + 6
  let value := shift.value * 64 + six
  if bits < 16 then ([], { shift with bits, value })
  else
    let rest := Nat.pow 2 (bits - 16)
    let (chars, high) := Shift.unit shift.high (value / rest)
    (chars, ⟨bits - 16, value % rest, high⟩)

/-- The bits that are left make no unit: too many, or not all of them zero. -/
def Shift.isBroken (shift : Shift) : Bool := 6 ≤ shift.bits || (0 < shift.bits && shift.value != 0)

def readUtf7 : Option Shift → List UInt8 → List Char
  | none, [] => []
  | some shift, [] => if shift.isBroken || shift.high.isSome then [replacement] else []
  | none, [b] =>
    if b.toNat == 0x2B then [] else if b.toNat < 0x80 then [Char.ofNat b.toNat] else [replacement]
  | none, b :: c :: rest =>
    if b.toNat == 0x2B then
      if c.toNat == 0x2D then '+' :: readUtf7 none rest
      else if (base64Value c).isSome then readUtf7 (some ⟨0, 0, none⟩) (c :: rest)
      else replacement :: readUtf7 none rest
    else (if b.toNat < 0x80 then Char.ofNat b.toNat else replacement) :: readUtf7 none (c :: rest)
  | some shift, b :: rest =>
    match base64Value b with
    | some six =>
      let (chars, shift) := shift.take six
      chars ++ readUtf7 (some shift) rest
    | none =>
      if shift.isBroken then replacement :: readUtf7 none rest
      else
        (if shift.high.isSome && b.toNat < 0x80 then [replacement] else [])
          ++ if b.toNat == 0x2D then readUtf7 none rest
            else (if b.toNat < 0x80 then Char.ofNat b.toNat else replacement) :: readUtf7 none rest
termination_by structural _ bytes => bytes

def byteOrderMark? : (bits : Nat) → List UInt8 → Option (ByteOrder × List UInt8)
  | 16, 0xFF :: 0xFE :: rest => some (.little, rest)
  | 16, 0xFE :: 0xFF :: rest => some (.big, rest)
  | 32, 0xFF :: 0xFE :: 0 :: 0 :: rest => some (.little, rest)
  | 32, 0 :: 0 :: 0xFE :: 0xFF :: rest => some (.big, rest)
  | _, _ => none

def readUnits (bits : Nat) (order : ByteOrder) (bytes : List UInt8) : List Char :=
  if bits == 32 then readUtf32 order bytes else readUtf16 order bytes

def Charset.read (charset : Charset) (bytes : List UInt8) : Except DecodeError (List Char) :=
  match charset with
  | .utf8 => .ok (ofUtf8 bytes)
  | .markedUtf8 =>
    match ofUtf8 bytes with
    | '\uFEFF' :: rest => .ok rest
    | cs => .ok cs
  | .utf7 => .ok (readUtf7 none bytes)
  | .ascii => .ok (bytes.map fun b => if b.toNat < 0x80 then Char.ofNat b.toNat else replacement)
  | .latin => .ok (bytes.map fun b => Char.ofNat b.toNat)
  | .page characters => .ok (bytes.map (pageChar characters))
  | .utf16 order => .ok (readUtf16 order bytes)
  | .utf32 order => .ok (readUtf32 order bytes)
  | .marked bits =>
    match byteOrderMark? bits bytes with
    | some (order, rest) => .ok (readUnits bits order rest)
    | none => if 8 * bytes.length < bits then .ok [replacement] else .error (.unmarked bits)
  | .undefined => .error .undefined
  | .strictOnly => .error .strictOnly
  | .conversion => .error .conversion
  | .rotation => .error .rotation

def truncation (form : String) (width position : Nat) (bytes : List UInt8) :
    Except DecodeError Unit :=
  let rest := bytes.length % width
  let whole := bytes.length - rest
  if rest == 0 then .ok ()
  else .error (.malformed form (bytes.drop whole) (position + whole) "truncated data")

def beyond? (order : ByteOrder) (position : Nat) : List UInt8 → Option (Nat × List UInt8)
  | a :: b :: c :: d :: rest =>
    if 0x10FFFF < unitValue order [a, b, c, d] then some (position, [a, b, c, d])
    else beyond? order (position + 4) rest
  | _ => none

def ByteOrder.suffix : ByteOrder → String
  | .big => "be"
  | .little => "le"

/-- Text in units of a known order, which begins at a position. Half a surrogate pair passes. -/
def readUnitsStrictly (bits : Nat) (order : ByteOrder) (position : Nat) (bytes : List UInt8) :
    Except DecodeError (List Char) := do
  let form := s!"utf-{bits}-{order.suffix}"
  if bits == 32 then
    if let some (place, unit) := beyond? order position bytes then
      throw (.malformed form unit place "code point not in range(0x110000)")
  truncation form (bits / 8) position bytes
  return readUnits bits order bytes

/-- Half a surrogate pair that is written like a character becomes a replacement character. -/
def passHalves : List UInt8 → List UInt8
  | 0xED :: b :: c :: rest =>
    if 0xA0 ≤ b && b ≤ 0xBF && 0x80 ≤ c && c ≤ 0xBF then 0xEF :: 0xBF :: 0xBD :: passHalves rest
    else 0xED :: passHalves (b :: c :: rest)
  | b :: rest => b :: passHalves rest
  | [] => []

def readUtf8Strictly (position : Nat) :
    Option (Unfinished × List UInt8) → List UInt8 → Except DecodeError (List Char)
  | none, [] => .ok []
  | some (_, begun), [] => .error (.malformed "utf-8" begun position "unexpected end of data")
  | none, b :: rest =>
    match lead b.toNat with
    | .whole c => (c :: ·) <$> readUtf8Strictly (position + 1) none rest
    | .part unfinished => readUtf8Strictly position (some (unfinished, [b])) rest
    | .broken => .error (.malformed "utf-8" [b] position "invalid start byte")
  | some (unfinished, begun), b :: rest =>
    let byte := b.toNat
    if unfinished.least ≤ byte && byte ≤ unfinished.greatest then
      let value := unfinished.value * 64 + byte % 64
      if unfinished.left ≤ 1 then
        (Char.ofNat value :: ·) <$> readUtf8Strictly (position + begun.length + 1) none rest
      else readUtf8Strictly position
        (some (⟨unfinished.left - 1, 0x80, 0xBF, value⟩, begun ++ [b])) rest
    else .error (.malformed "utf-8" begun position "invalid continuation byte")

/-- Bytes of a notation that begins with ASCII characters: a mark at the beginning or zeros among
the first four tell the width of units and their order. -/
def readGuessing (bytes : List UInt8) : Except DecodeError (List Char) :=
  match bytes with
  | 0 :: 0 :: 0xFE :: 0xFF :: rest => readUnitsStrictly 32 .big 4 rest
  | 0xFF :: 0xFE :: 0 :: 0 :: rest => readUnitsStrictly 32 .little 4 rest
  | 0xFE :: 0xFF :: rest => readUnitsStrictly 16 .big 2 rest
  | 0xFF :: 0xFE :: rest => readUnitsStrictly 16 .little 2 rest
  | 0xEF :: 0xBB :: 0xBF :: rest => readUtf8Strictly 0 none (passHalves rest)
  | 0 :: 0 :: _ :: _ :: _ => readUnitsStrictly 32 .big 0 bytes
  | 0 :: _ :: _ :: _ :: _ => readUnitsStrictly 16 .big 0 bytes
  | _ :: 0 :: 0 :: 0 :: _ => readUnitsStrictly 32 .little 0 bytes
  | _ :: 0 :: _ :: _ :: _ => readUnitsStrictly 16 .little 0 bytes
  | [0, _] => readUnitsStrictly 16 .big 0 bytes
  | [_, 0] => readUnitsStrictly 16 .little 0 bytes
  | _ => readUtf8Strictly 0 none (passHalves bytes)

def byteText (byte : UInt8) : String :=
  String.ofList [Nat.digitChar (byte.toNat / 16), Nat.digitChar (byte.toNat % 16)]

def DecodeError.message : DecodeError → String
  | .unmarked bits => s!"UTF-{bits} stream does not start with BOM"
  | .undefined => "undefined encoding"
  | .strictOnly => "Unsupported error handling replace"
  | .conversion => ""
  | .rotation => "descriptor 'translate' for 'str' objects doesn't apply to a 'bytes' object"
  | .malformed form [byte] position reason =>
    s!"'{form}' codec can't decode byte 0x{byteText byte} in position {position}: {reason}"
  | .malformed form bytes position reason =>
    s!"'{form}' codec can't decode bytes in position {position}-{position + bytes.length - 1}: "
      ++ reason

end Flowplan.Text
