import Flowplan.Block.Quoted
import Flowplan.Text.Segments

/-!
# The outline of a block document

A small language of documents in which indentation nests blocks: mappings, lists and scalars, and
lists in brackets and mappings in braces that may run over lines. Comments run from a number sign
to the end of the line. What does not fit the language ends the document.
-/

namespace Flowplan.Block

inductive Token
  | plain (text : List Char)
  | quoted (text : List Char)
deriving DecidableEq

inductive Node
  | leaf (token : Token)
  | list (items : List Node)
  | mapping (fields : List (Token × Node))

namespace Node

def nothing : Node := .leaf (.plain [])

def unified : List Char → List Char
  | '\r' :: '\n' :: cs => '\n' :: unified cs
  | '\r' :: cs => '\n' :: unified cs
  | '\u0085' :: cs => '\n' :: unified cs
  | c :: cs => c :: unified cs
  | [] => []

def isMarked (mark line : List Char) : Bool :=
  mark.isPrefixOf line && (line.drop mark.length).head?.all isSpace

def startMark : List Char := ['-', '-', '-']

def endMark : List Char := ['.', '.', '.']

def isPreamble (line : List Char) : Bool :=
  line.head? == some '%' || (line.dropWhile (· == ' ')).head?.all (· == '#')

def body (text : List Char) : List Char :=
  let text := unified (if text.head? == some '\uFEFF' then text.drop 1 else text)
  let marked (line : List Char) := isMarked startMark line || isMarked endMark line
  let inside (lines : List (List Char)) := lines.takeWhile (!marked ·)
  Text.joinWith ['\n'] (match (Text.segments '\n' text).dropWhile isPreamble with
    | [] => []
    | line :: rest =>
      if isMarked startMark line then ([' ', ' ', ' '] ++ line.drop 3) :: inside rest
      else inside (line :: rest))

structure Cursor where
  column : Nat
  rest : List Char

def skip (comment : Bool) (column : Nat) : List Char → Cursor
  | [] => ⟨column, []⟩
  | c :: cs =>
    if isBreak c then skip false 0 cs
    else if comment then skip true column cs
    else if c == '#' then skip true column cs
    else if c == ' ' then skip false (column + 1) cs
    else ⟨column, c :: cs⟩

def isClear (cs : List Char) : Bool := cs.head?.all isGap

def isItem : List Char → Bool
  | '-' :: cs => isClear cs
  | _ => false

def isFlowMark (c : Char) : Bool := [',', '[', ']', '{', '}'].contains c

def word (flow : Bool) : List Char → List Char × List Char
  | [] => ([], [])
  | c :: cs =>
    let ends := isGap c || (flow && (isFlowMark c || c == '?'))
      || (c == ':' && (isClear cs || (flow && cs.head?.any isFlowMark)))
    if ends then ([], c :: cs)
    else
      let (text, rest) := word flow cs
      (c :: text, rest)

/-- A plain scalar: words with gaps between them. Outside brackets and braces a line that continues
it begins at the column `least` or further in. -/
def plain (flow : Bool) (least : Nat) : Nat → List Char → List Char × List Char
  | 0, cs => ([], cs)
  | fuel + 1, cs =>
    let (first, rest) := word flow cs
    let blanks := rest.takeWhile (· == ' ')
    let after := rest.dropWhile (· == ' ')
    let breaks := after.head?.any isBreak
    let gap := if breaks then after.takeWhile fun c => c == ' ' || isBreak c else []
    let next := after.drop gap.length
    let column := (gap.reverse.takeWhile (· == ' ')).length
    if first.isEmpty || (blanks.isEmpty && !breaks) || next.isEmpty || next.head? == some '#'
        || (breaks && !flow && column < least) then (first, rest)
    else
      match plain flow least fuel next with
      | ([], _) => (first, rest)
      | (text, rest) =>
        (first ++ (if breaks then folded (gap.filter isBreak) else blanks) ++ text, rest)

def scalar (flow : Bool) (least : Nat) (cs : List Char) : Token × List Char :=
  match quoted? cs with
  | some (text, rest) => (.quoted text, rest)
  | none =>
    let (text, rest) := plain flow least (cs.length + 1) cs
    (.plain text, rest)

def name? (cs : List Char) : Option (Token × List Char) :=
  let (name, rest) := scalar false 0 (cs.takeWhile (!isBreak ·))
  match rest.dropWhile (· == ' ') with
  | ':' :: rest => if isClear rest then some (name, rest ++ cs.dropWhile (!isBreak ·)) else none
  | _ => none

def asName : Node → Token
  | .leaf name => name
  | _ => .plain []

mutual

def flowNode : Nat → List Char → Node × List Char
  | 0, cs => (nothing, cs)
  | fuel + 1, cs =>
    match cs with
    | '[' :: rest => flowItems fuel [] (skip false 0 rest).rest
    | '{' :: rest => flowFields fuel [] (skip false 0 rest).rest
    | cs =>
      let (token, rest) := scalar true 0 cs
      (.leaf token, rest)
termination_by structural fuel => fuel

def flowAfter : Nat → List Char → Option Node × List Char
  | 0, cs => (none, cs)
  | fuel + 1, cs =>
    match cs with
    | ':' :: rest =>
      let rest := (skip false 0 rest).rest
      if rest.head?.all fun c => c == ',' || c == ']' || c == '}' then (some nothing, rest)
      else
        let (node, rest) := flowNode fuel rest
        (some node, (skip false 0 rest).rest)
    | cs => (none, cs)
termination_by structural fuel => fuel

/-- The items between brackets, from the next one on. An item with a colon,
or after a question mark, is a single field. -/
def flowItems : Nat → List Node → List Char → Node × List Char
  | 0, read, cs => (.list read.reverse, cs)
  | fuel + 1, read, cs =>
    match cs with
    | [] => (.list read.reverse, [])
    | ']' :: rest => (.list read.reverse, rest)
    | cs =>
      let marked := cs.head? == some '?'
      let (first, rest) := flowNode fuel (if marked then (skip false 0 (cs.drop 1)).rest else cs)
      let (after, rest) := flowAfter fuel (skip false 0 rest).rest
      let item :=
        if marked || after.isSome then .mapping [(asName first, after.getD nothing)] else first
      match rest with
      | ',' :: rest => flowItems fuel (item :: read) (skip false 0 rest).rest
      | ']' :: rest => (.list (item :: read).reverse, rest)
      | rest => (.list (item :: read).reverse, rest)
termination_by structural fuel => fuel

def flowFields : Nat → List (Token × Node) → List Char → Node × List Char
  | 0, read, cs => (.mapping read.reverse, cs)
  | fuel + 1, read, cs =>
    match cs with
    | [] => (.mapping read.reverse, [])
    | '}' :: rest => (.mapping read.reverse, rest)
    | '?' :: rest => flowFields fuel read (skip false 0 rest).rest
    | cs =>
      let (name, rest) := flowNode fuel cs
      let (after, rest) := flowAfter fuel (skip false 0 rest).rest
      let read := (asName name, after.getD nothing) :: read
      match rest with
      | ',' :: rest => flowFields fuel read (skip false 0 rest).rest
      | '}' :: rest => (.mapping read.reverse, rest)
      | rest => (.mapping read.reverse, rest)
termination_by structural fuel => fuel

end

mutual

/-- The node at a place, which is nothing where the place is further out than
the column `least`, and the place after it. -/
def node : Nat → Nat → Cursor → Node × Cursor
  | 0, _, place => (nothing, place)
  | fuel + 1, least, place =>
    if place.rest.isEmpty || place.column < least then (nothing, place)
    else if isItem place.rest then items fuel place.column [] place
    else if place.rest.head?.any fun c => c == '[' || c == '{' then
      let (node, rest) := flowNode (place.rest.length + 1) place.rest
      (node, skip false 0 rest)
    else if (name? place.rest).isSome then fields fuel place.column [] place
    else
      let (token, rest) := scalar false least place.rest
      (.leaf token, skip false 0 rest)
termination_by structural fuel => fuel

def items : Nat → Nat → List Node → Cursor → Node × Cursor
  | 0, _, read, place => (.list read.reverse, place)
  | fuel + 1, column, read, place =>
    if place.column == column && isItem place.rest then
      let (item, next) := node fuel (column + 1) (skip false (column + 1) (place.rest.drop 1))
      items fuel column (item :: read) next
    else (.list read.reverse, place)
termination_by structural fuel => fuel

def fields : Nat → Nat → List (Token × Node) → Cursor → Node × Cursor
  | 0, _, read, place => (.mapping read.reverse, place)
  | fuel + 1, column, read, place =>
    match if place.column == column then name? place.rest else none with
    | none => (.mapping read.reverse, place)
    | some (name, rest) =>
      let after := skip false (column + 1) rest
      let (field, next) :=
        if after.column == column && isItem after.rest then items fuel column [] after
        else node fuel (column + 1) after
      fields fuel column ((name, field) :: read) next
termination_by structural fuel => fuel

end

/-- The outline of a text. Every step but two takes a character, so its length bounds the steps. -/
def ofText (text : String) : Node :=
  let cs := body text.toList
  (node (3 * cs.length + 3) 0 (skip false 0 cs)).1

def merge : List (List Token) → List (List Token) → List (List Token)
  | [], levels => levels
  | levels, [] => levels
  | a :: as, b :: bs => (a ++ b) :: merge as bs

mutual

def levels : Node → List (List Token)
  | .leaf token => [[token]]
  | .list items => [] :: levelsOfItems items
  | .mapping fields => [] :: levelsOfFields fields
termination_by structural n => n

def levelsOfItems : List Node → List (List Token)
  | [] => []
  | x :: xs => merge (levels x) (levelsOfItems xs)
termination_by structural n => n

def levelsOfFields : List (Token × Node) → List (List Token)
  | [] => []
  | x :: xs => merge (levelsOfField x) (levelsOfFields xs)
termination_by structural n => n

def levelsOfField : Token × Node → List (List Token)
  | (name, x) => merge [[name]] (levels x)
termination_by structural n => n

end

end Node

end Flowplan.Block
