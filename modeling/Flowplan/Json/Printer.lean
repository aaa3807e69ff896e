import Flowplan.Json.Basic
import Flowplan.Number.Decimal
import Flowplan.Text.Quoted

namespace Flowplan.Json

structure Style where
  comma : List Char
  colon : List Char
  line : Nat → List Char
  ascii : Bool

namespace Style

def compact : Style := ⟨[','], [':'], fun _ => [], false⟩

def spaced : Style := ⟨[',', ' '], [':', ' '], fun _ => [], false⟩

def spacedAscii : Style := { spaced with ascii := true }

def indented : Style :=
  ⟨[','], [':', ' '], fun depth => '\n' :: List.replicate (2 * depth) ' ', true⟩

end Style

def numberLayout : NumberLayout where
  positionalFrom := -4
  exponentFrom := 16
  exponentWidth := 2
  infinity := "Infinity"
  undefined := "NaN"

def hexDigits (width n : Nat) : List Char := NumberLayout.padLeft width (Nat.toDigits 16 n)

def escapeUnit (unit : Nat) : List Char := '\\' :: 'u' :: hexDigits 4 unit

def escapeCode (code : Nat) : List Char :=
  if code < 0x10000 then escapeUnit code
  else escapeUnit (0xD800 + (code - 0x10000) / 0x400)
    ++ escapeUnit (0xDC00 + (code - 0x10000) % 0x400)

def escapeChar (ascii : Bool) (c : Char) : List Char :=
  if c == '"' then ['\\', '"']
  else if c == '\\' then ['\\', '\\']
  else if c == '\n' then ['\\', 'n']
  else if c == '\r' then ['\\', 'r']
  else if c == '\t' then ['\\', 't']
  else if c == '\x08' then ['\\', 'b']
  else if c == '\x0c' then ['\\', 'f']
  else if c.toNat < 0x20 || (ascii && 0x7e < c.toNat) then escapeCode c.toNat
  else [c]

def quote (ascii : Bool) (text : List Char) : List Char :=
  '"' :: text.flatMap (escapeChar ascii) ++ ['"']

mutual

def write (style : Style) (depth : Nat) : Json → List Char
  | .null => ['n', 'u', 'l', 'l']
  | .bool true => ['t', 'r', 'u', 'e']
  | .bool false => ['f', 'a', 'l', 's', 'e']
  | .int n => (toString n).toList
  | .float x => (x.write numberLayout).toList
  | .str s => quote style.ascii s.toList
  | .arr [] => ['[', ']']
  | .arr (x :: xs) =>
    '[' :: style.line (depth + 1) ++ write style (depth + 1) x ++ writeItems style (depth + 1) xs
      ++ style.line depth ++ [']']
  | .obj [] => ['{', '}']
  | .obj (x :: xs) =>
    '{' :: style.line (depth + 1) ++ writeField style (depth + 1) x
      ++ writeFields style (depth + 1) xs ++ style.line depth ++ ['}']
termination_by structural j => j

def writeItems (style : Style) (depth : Nat) : List Json → List Char
  | [] => []
  | x :: xs => style.comma ++ style.line depth ++ write style depth x ++ writeItems style depth xs
termination_by structural j => j

def writeFields (style : Style) (depth : Nat) : List (String × Json) → List Char
  | [] => []
  | x :: xs =>
    style.comma ++ style.line depth ++ writeField style depth x ++ writeFields style depth xs
termination_by structural j => j

def writeField (style : Style) (depth : Nat) : String × Json → List Char
  | (name, x) => quote style.ascii name.toList ++ style.colon ++ write style depth x
termination_by structural j => j

end

def print (style : Style) (value : Json) : String := String.ofList (value.write style 0)

def insertField (field : String × Json) : List (String × Json) → List (String × Json)
  | [] => [field]
  | other :: rest =>
    if other.1 < field.1 then other :: insertField field rest else field :: other :: rest

/-- The fields in order of their names; fields of one name keep their order. -/
def sortFields (fields : List (String × Json)) : List (String × Json) := fields.foldr insertField []

mutual

def canonical : Json → Json
  | .arr items => .arr (canonicalItems items)
  | .obj fields => .obj (sortFields (canonicalFields fields))
  | value => value
termination_by structural j => j

def canonicalItems : List Json → List Json
  | [] => []
  | x :: xs => canonical x :: canonicalItems xs
termination_by structural j => j

def canonicalFields : List (String × Json) → List (String × Json)
  | [] => []
  | x :: xs => canonicalField x :: canonicalFields xs
termination_by structural j => j

def canonicalField : String × Json → String × Json
  | (name, x) => (name, canonical x)
termination_by structural j => j

end

def canonicalText (value : Json) : String := value.canonical.print .compact

def messageLayout : NumberLayout := { numberLayout with infinity := "inf", undefined := "nan" }

mutual

def literal : Json → List Char
  | .null => "None".toList
  | .bool true => "True".toList
  | .bool false => "False".toList
  | .int n => (toString n).toList
  | .float x => (x.write messageLayout).toList
  | .str s => Text.quotedChars s.toList
  | .arr [] => ['[', ']']
  | .arr (x :: xs) => '[' :: literal x ++ literalItems xs ++ [']']
  | .obj [] => ['{', '}']
  | .obj (x :: xs) => '{' :: literalField x ++ literalFields xs ++ ['}']
termination_by structural j => j

def literalItems : List Json → List Char
  | [] => []
  | x :: xs => ',' :: ' ' :: literal x ++ literalItems xs
termination_by structural j => j

def literalFields : List (String × Json) → List Char
  | [] => []
  | x :: xs => ',' :: ' ' :: literalField x ++ literalFields xs
termination_by structural j => j

def literalField : String × Json → List Char
  | (name, x) => Text.quotedChars name.toList ++ ':' :: ' ' :: literal x
termination_by structural j => j

end

def display : Json → String
  | .str s => s
  | value => String.ofList value.literal

def text? : Json → Option String
  | .null => none
  | value => some value.display

def inspect (value : Json) : String := String.ofList value.literal

end Flowplan.Json
