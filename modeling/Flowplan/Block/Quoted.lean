import Flowplan.Text.Character

namespace Flowplan.Block

def isSpace (c : Char) : Bool := c == ' ' || c == '\t'

def isBreak (c : Char) : Bool := c == '\n' || c == '\u2028' || c == '\u2029'

def folded : List Char → List Char
  | ['\n'] => [' ']
  | '\n' :: more => more
  | breaks => breaks

def foldedGap (run : List Char) : List Char :=
  let breaks := run.filter isBreak
  if breaks.isEmpty then run else folded breaks

def isGap (c : Char) : Bool := isSpace c || isBreak c

def singleQuoted : Nat → List Char → Option (List Char × List Char)
  | 0, _ => none
  | fuel + 1, cs =>
    match cs with
    | [] => none
    | '\'' :: '\'' :: rest => (singleQuoted fuel rest).map fun (text, rest) => ('\'' :: text, rest)
    | '\'' :: rest => some ([], rest)
    | c :: rest =>
      if isGap c then
        (singleQuoted fuel (rest.dropWhile isGap)).map fun (text, after) =>
          (foldedGap (c :: rest.takeWhile isGap) ++ text, after)
      else (singleQuoted fuel rest).map fun (text, rest) => (c :: text, rest)

def escapes : List (Char × Char) := [
  ('0', '\x00'), ('a', '\x07'), ('b', '\x08'), ('t', '\t'), ('\t', '\t'), ('n', '\n'),
  ('v', '\x0b'), ('f', '\x0c'), ('r', '\r'), ('e', '\x1b'), (' ', ' '), ('"', '"'),
  ('\\', '\\'), ('/', '/'), ('N', '\u0085'), ('_', '\u00a0'), ('L', '\u2028'), ('P', '\u2029')]

def codeWidth? : Char → Option Nat
  | 'x' => some 2
  | 'u' => some 4
  | 'U' => some 8
  | _ => none

def lowHalf? : List Char → Option Nat
  | '\\' :: 'u' :: cs => (Text.hexNumber? 4 cs).filter Text.isLow
  | _ => none

def ofCode (code : Nat) : Char :=
  if Text.isHigh code || Text.isLow code then '\uFFFD' else Char.ofNat code

/-- The text of an escape, after its backslash, and what follows it. A
line break that is escaped is lost. -/
def escape? : List Char → Option (List Char × List Char)
  | [] => none
  | c :: cs =>
    if isBreak c then some ((cs.takeWhile isGap).filter isBreak, cs.dropWhile isGap)
    else
      match codeWidth? c with
      | none => (escapes.lookup c).map fun d => ([d], cs)
      | some width =>
        (Text.hexNumber? width cs).map fun code =>
          let rest := cs.drop width
          match if Text.isHigh code then lowHalf? rest else none with
          | some low => ([Text.joinHalves code low], rest.drop 6)
          | none => ([ofCode code], rest)

def doubleQuoted : Nat → List Char → Option (List Char × List Char)
  | 0, _ => none
  | fuel + 1, cs =>
    match cs with
    | [] => none
    | '"' :: rest => some ([], rest)
    | '\\' :: rest => do
      let (text, rest) ← escape? rest
      let (more, rest) ← doubleQuoted fuel rest
      return (text ++ more, rest)
    | c :: rest =>
      if isGap c then
        (doubleQuoted fuel (rest.dropWhile isGap)).map fun (text, after) =>
          (foldedGap (c :: rest.takeWhile isGap) ++ text, after)
      else (doubleQuoted fuel rest).map fun (text, rest) => (c :: text, rest)

def quoted? : List Char → Option (List Char × List Char)
  | '\'' :: rest => singleQuoted (rest.length + 1) rest
  | '"' :: rest => doubleQuoted (rest.length + 1) rest
  | _ => none

end Flowplan.Block
