import Flowplan.Entries
import Flowplan.Text.Character
import Flowplan.Text.Segments

namespace Flowplan

abbrev Environment := Entries String

namespace Environment

def value? (environment : Environment) (name : String) : Option String :=
  (environment.lookup name).filter (· != "")

def first? (environment : Environment) (names : List String) : Option String :=
  names.findSome? environment.value?

def startsWith (start name : String) : Bool := start.toList.isPrefixOf name.toList

def endsWith (ending name : String) : Bool := ending.toList.isSuffixOf name.toList

def engineNames : List String :=
  ["WINDMILL_SERVER_URL", "WINDMILL_SERVER_API_KEY", "WINDMILL_SERVICE_DATABASE_URL"]

/-- Addresses and keys of services. Names without the word for services count as well, unless
they are those of the engine or of a database. -/
def isServiceName (name : String) : Bool :=
  !engineNames.contains name && !startsWith "RAILWAY_" name
    && (endsWith "_SERVICE_URL" name || endsWith "_SERVICE_API_KEY" name
      || ((endsWith "_URL" name || endsWith "_API_KEY" name)
        && !startsWith "WINDMILL_" name && !Text.occursIn "DATABASE".toList name.toList))

def services (environment : Environment) : Environment :=
  environment.filter fun (name, value) => value != "" && isServiceName name

end Environment

end Flowplan

namespace Flowplan.EnvFile

structure Assignment where
  name : String
  value : Option String
deriving DecidableEq

def isLineBreak (c : Char) : Bool := c == '\n' || c == '\r'

def isSpace (c : Char) : Bool := Text.isBlank c && !isLineBreak c

def skipSpaces (cs : List Char) : List Char := cs.dropWhile isSpace

def dropExport (cs : List Char) : List Char :=
  match cs with
  | 'e' :: 'x' :: 'p' :: 'o' :: 'r' :: 't' :: rest =>
    if rest.head?.any isSpace then skipSpaces rest else cs
  | _ => cs

def dropLine (cs : List Char) : List Char := (cs.dropWhile (!isLineBreak ·)).drop 1

/-- A quoted text up to its closing quote, with its escapes as they are, and what follows.
What stands behind a backslash closes nothing. -/
def quotedRun (quote : Char) : List Char → Option (List Char × List Char)
  | [] | ['\\'] => none
  | '\\' :: c :: cs => (quotedRun quote cs).map fun (run, rest) => ('\\' :: c :: run, rest)
  | c :: cs =>
    if c == quote then some ([], cs) else (quotedRun quote cs).map fun (run, rest) =>
      (c :: run, rest)

def doubleEscape (c : Char) : Option Char :=
  match c with
  | '\\' => some '\\'
  | '\'' => some '\''
  | '"' => some '"'
  | 'a' => some '\x07'
  | 'b' => some '\x08'
  | 'f' => some '\x0c'
  | 'n' => some '\n'
  | 'r' => some '\r'
  | 't' => some '\t'
  | 'v' => some '\x0b'
  | _ => none

def singleEscape (c : Char) : Option Char :=
  match c with
  | '\\' => some '\\'
  | '\'' => some '\''
  | _ => none

def unescape (escape : Char → Option Char) : List Char → List Char
  | '\\' :: c :: cs =>
    match escape c with
    | some d => d :: unescape escape cs
    | none => '\\' :: unescape escape (c :: cs)
  | c :: cs => c :: unescape escape cs
  | [] => []

def uncommented : List Char → List Char
  | [] => []
  | c :: cs =>
    if Text.isBlank c && (cs.dropWhile Text.isBlank).head? == some '#' then []
    else c :: uncommented cs

/-- The value after an equality sign and what follows it. Blanks before
the value count only in front of a comment. -/
def value (cs : List Char) : Option (List Char × List Char) :=
  match skipSpaces cs with
  | '\'' :: rest => (quotedRun '\'' rest).map fun (run, rest) => (unescape singleEscape run, rest)
  | '"' :: rest => (quotedRun '"' rest).map fun (run, rest) => (unescape doubleEscape run, rest)
  | _ =>
    let line := cs.takeWhile (!isLineBreak ·)
    some (Text.trim Text.isBlank (uncommented line), cs.dropWhile (!isLineBreak ·))

def name (cs : List Char) : Option (Option (List Char) × List Char) :=
  match cs with
  | '#' :: _ => some (none, cs)
  | '\'' :: rest =>
    let run := rest.takeWhile (· != '\'')
    match rest.dropWhile (· != '\'') with
    | _ :: after => if run.isEmpty then none else some (some run, after)
    | [] => none
  | cs =>
    let isNameChar (c : Char) : Bool := c != '=' && c != '#' && !Text.isBlank c
    let run := cs.takeWhile isNameChar
    if run.isEmpty then none else some (some run, cs.dropWhile isNameChar)

def lineEnd (cs : List Char) : Option (List Char) :=
  let after := skipSpaces cs
  let after := if after.head? == some '#' then after.dropWhile (!isLineBreak ·) else after
  match after with
  | [] => some []
  | c :: rest => if isLineBreak c then some rest else none

def valueAfter (cs : List Char) : Option (Option (List Char) × List Char) :=
  match cs with
  | '=' :: rest => (value rest).map fun (found, rest) => (some found, rest)
  | rest => some (none, rest)

/-- One line, or more where quotes span them: what it assigns, if it does, and what follows. Of a
line that makes no sense the rest is dropped from where it makes none. -/
def line (cs : List Char) : Option Assignment × List Char :=
  let start := dropExport cs
  match name start with
  | none => (none, dropLine start)
  | some (name, rest) =>
    let rest := skipSpaces rest
    match valueAfter rest with
    | none => (none, dropLine rest)
    | some (value, rest) =>
      match lineEnd rest with
      | none => (none, dropLine rest)
      | some rest => (name.map fun run => ⟨String.ofList run, value.map String.ofList⟩, rest)

def assignmentsFrom : Nat → List Char → List Assignment
  | 0, _ => []
  | fuel + 1, cs =>
    match cs.dropWhile Text.isBlank with
    | [] => []
    | cs =>
      let (found, rest) := line cs
      found.toList ++ assignmentsFrom fuel rest

def unifyLines : List Char → List Char
  | '\r' :: '\n' :: cs => '\n' :: unifyLines cs
  | '\r' :: cs => '\n' :: unifyLines cs
  | c :: cs => c :: unifyLines cs
  | [] => []

def assignments (text : String) : List Assignment :=
  let cs := unifyLines text.toList
  assignmentsFrom cs.length cs

/-- A placeholder, a name that stands in braces, perhaps with a value
to fall back on behind `:-`. -/
structure Placeholder where
  name : String
  fallback : List Char

def placeholder? (cs : List Char) : Option (Placeholder × List Char) :=
  let name := cs.takeWhile fun c => c != '}' && c != ':'
  match cs.drop name.length with
  | '}' :: rest => some (⟨String.ofList name, []⟩, rest)
  | ':' :: '-' :: rest =>
    let fallback := rest.takeWhile (· != '}')
    match rest.drop fallback.length with
    | _ :: rest => some (⟨String.ofList name, fallback⟩, rest)
    | [] => none
  | _ => none

def expand (value? : String → Option String) : Nat → List Char → List Char
  | 0, cs => cs
  | _, [] => []
  | fuel + 1, c :: cs =>
    match c, cs with
    | '$', '{' :: rest =>
      match placeholder? rest with
      | some (v, rest) =>
        ((value? v.name).map String.toList).getD v.fallback ++ expand value? fuel rest
      | none => c :: expand value? fuel cs
    | c, cs => c :: expand value? fuel cs

/-- What a name stands for inside a value: the variable of the environment, else the value that the
file gave it before, which may be nothing. -/
def known? (environment : Environment) (before : Entries (Option String)) (name : String) :
    Option String :=
  match environment.lookup name with
  | some value => some value
  | none => (before.lookup name).map (·.getD "")

def table (text : String) (environment : Environment) : Entries (Option String) :=
  (assignments text).foldl (fun before a =>
    let value := a.value.map fun value =>
      String.ofList (expand (known? environment before) value.toList.length value.toList)
    before.put a.name value) []

/-- Adds the variables of a file to an environment. Variables that are there keep their values. -/
def load (text : String) (environment : Environment) : Environment :=
  (table text environment).foldl (fun environment (name, value) =>
    match value with
    | some value => if environment.has name then environment else environment.put name value
    | none => environment) environment

end Flowplan.EnvFile
