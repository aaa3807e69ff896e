import Flowplan.Http.Host
import Flowplan.Text.Numeral

namespace Flowplan.Http

inductive UrlError
  | tooLong
  | partTooLong (part : String)
  | unprintable (character : Char) (position : Nat)
  | host (error : HostError)
  | port (text : String)
  | unrooted
  | doubleSlash
  | leadingColon
deriving DecidableEq

def UrlError.message : UrlError → String
  | .tooLong => "URL too long"
  | .partTooLong part => s!"URL component '{part}' too long"
  | .unprintable character position =>
    s!"Invalid non-printable ASCII character in URL, {Text.quoted character.toString} "
      ++ s!"at position {position}."
  | .host (.notQuad name) => s!"Invalid IPv4 address: {Text.quoted name}"
  | .host (.notHextets name) => s!"Invalid IPv6 address: {Text.quoted name}"
  | .host (.notDomain name) => s!"Invalid IDNA hostname: {Text.quoted name}"
  | .port text => s!"Invalid port: {Text.quoted text}"
  | .unrooted => "For absolute URLs, path must be empty or begin with '/'"
  | .doubleSlash => "Relative URLs cannot have a path starting with '//'"
  | .leadingColon => "Relative URLs cannot have a path starting with ':'"

structure Authority where
  user : List Char
  host : List Char
  port : Option Int
deriving DecidableEq

structure Url where
  scheme : List Char
  authority : Authority
  path : List Char
  query : Option (List Char)
  fragment : Option (List Char)
deriving DecidableEq

namespace Authority

def isEmpty (authority : Authority) : Bool :=
  authority.user.isEmpty && authority.host.isEmpty && authority.port.isNone

def impliedPort (scheme : List Char) : Option Int :=
  match String.ofList scheme with
  | "http" | "ws" => some 80
  | "https" | "wss" => some 443
  | "ftp" => some 21
  | _ => none

def readPort (scheme port : List Char) : Except UrlError (Option Int) :=
  if port.isEmpty then .ok none
  else
    match Text.integer 10 (String.ofList port) with
    | .ok n => .ok (if some n == impliedPort scheme then none else some n)
    | .error _ => .error (.port (String.ofList port))

def takeHost (server : List Char) : List Char × List Char :=
  let bracketed := server.take (server.length - (server.reverse.takeWhile (· != ']')).length)
  if server.head? == some '[' && !bracketed.isEmpty then (bracketed, server.drop bracketed.length)
  else (server.takeWhile (· != ':'), server.dropWhile (· != ':'))

def read (scheme cs : List Char) : Except UrlError Authority := do
  let server := (cs.reverse.takeWhile (· != '@')).reverse
  let (host, rest) := takeHost server
  let host ← (Host.read host).mapError .host
  let port ← readPort scheme (if rest.head? == some ':' then rest.drop 1 else rest)
  return ⟨escape isUserChar (cs.take (cs.length - server.length - 1)), host, port⟩

def text (authority : Authority) : List Char :=
  (if authority.user.isEmpty then [] else authority.user ++ ['@'])
    ++ (if authority.host.contains ':' then '[' :: authority.host ++ [']'] else authority.host)
    ++ (match authority.port with
      | some port => ':' :: (toString port).toList
      | none => [])

def credentials? (authority : Authority) : Option String :=
  let (user, password) := Text.cut ':' authority.user
  let read (cs : List Char) : String := String.ofList (Text.ofUtf8 (unescape cs))
  let password := password.getD []
  if user.isEmpty && password.isEmpty then none
  else some (String.ofList (Text.base64 (Text.utf8 (read user ++ ":" ++ read password))))

end Authority

namespace Url

def maxLength : Nat := 65536

def check (cs : List Char) : Except UrlError Unit :=
  if maxLength < cs.length then .error .tooLong
  else
    match cs.findIdx? fun c => c.toNat < 0x20 || c.toNat == 0x7F with
    | some position => .error (.unprintable (cs.getD position '\x00') position)
    | none => .ok ()

def isSchemeChar (c : Char) : Bool := c.isAlphanum || ['+', '.', '-'].contains c

def takeScheme (cs : List Char) : List Char × List Char :=
  let word := cs.takeWhile isSchemeChar
  match cs.drop word.length with
  | ':' :: rest => if word.head?.all Char.isAlpha then (word, rest) else ([], cs)
  | _ => ([], cs)

def isServerEnd (c : Char) : Bool := c == '/' || c == '?' || c == '#'

def takeAuthority (cs : List Char) : List Char × List Char :=
  match cs with
  | '/' :: '/' :: rest => (rest.takeWhile (!isServerEnd ·), rest.dropWhile (!isServerEnd ·))
  | cs => ([], cs)

/-- Steps of a path without `.` steps, and without each `..` step and the step before it. -/
def resolveSteps : List (List Char) → List (List Char) → List (List Char)
  | done, [] => done.reverse
  | done, ['.'] :: rest => resolveSteps done rest
  | done, ['.', '.'] :: rest =>
    if done.isEmpty || done == [[]] then resolveSteps done rest else resolveSteps (done.drop 1) rest
  | done, step :: rest => resolveSteps (step :: done) rest

def normalizePath (path : List Char) : List Char :=
  let steps := Text.segments '/' path
  if steps.contains ['.'] || steps.contains ['.', '.'] then
    Text.joinWith ['/'] (resolveSteps [] steps)
  else path

def checkPath (scheme : List Char) (authority : Authority) (path : List Char) :
    Except UrlError Unit :=
  if !authority.isEmpty then
    if path.isEmpty || path.head? == some '/' then .ok () else .error .unrooted
  else if !scheme.isEmpty then .ok ()
  else if ['/', '/'].isPrefixOf path then .error .doubleSlash
  else if path.head? == some ':' then .error .leadingColon
  else .ok ()

def ofParts (scheme authority path : List Char) (query fragment : Option (List Char)) :
    Except UrlError Url := do
  let authority ← Authority.read scheme authority
  checkPath scheme authority path
  let path := if scheme.isEmpty && authority.isEmpty then path else normalizePath path
  return ⟨scheme.map Char.toLower, authority, escape isPathChar path,
    query.map (escape isQueryChar), fragment.map (escape isFragmentChar)⟩

def parse (text : String) : Except UrlError Url := do
  check text.toList
  let (scheme, rest) := takeScheme text.toList
  let (authority, rest) := takeAuthority rest
  let (rest, fragment) := Text.cut '#' rest
  let (path, query) := Text.cut '?' rest
  ofParts scheme authority path query fragment

def checkPart (name : String) (part : List Char) : Except UrlError Unit :=
  if maxLength < part.length then .error (.partTooLong name) else .ok ()

def place (url : Url) (raw : List Char) : Except UrlError Url := do
  let (path, query) := Text.cut '?' raw
  let authority := url.authority.text
  checkPart "authority" authority
  checkPart "path" path
  checkPart "query" (query.getD [])
  checkPart "fragment" (url.fragment.getD [])
  ofParts url.scheme authority path query url.fragment

def rawPath (url : Url) : List Char :=
  (if url.path.isEmpty then ['/'] else url.path) ++ (url.query.map ('?' :: ·)).getD []

def asBase (url : Url) : Except UrlError Url :=
  if url.rawPath.getLast? == some '/' then .ok url else url.place (url.rawPath ++ ['/'])

def below (base : Url) (path : String) : Except UrlError Url := do
  let relative ← parse path
  base.place (base.rawPath ++ relative.rawPath.dropWhile (· == '/'))

def plainText (url : Url) : List Char :=
  (if url.scheme.isEmpty then [] else url.scheme ++ [':'])
    ++ (if url.authority.isEmpty then [] else '/' :: '/' :: url.authority.text)
    ++ url.path ++ (url.query.map ('?' :: ·)).getD []

def text (url : Url) : String :=
  String.ofList (url.plainText ++ (url.fragment.map ('#' :: ·)).getD [])

def isTyped (url : Url) : Bool :=
  let word := url.plainText.takeWhile fun c => c != '/' && c != ':'
  !word.isEmpty && url.plainText.getD word.length '/' == ':'

def shown (url : Url) : String :=
  match url.text.toList.reverse with
  | '#' :: rest => String.ofList rest.reverse
  | _ => url.text

end Url

end Flowplan.Http
