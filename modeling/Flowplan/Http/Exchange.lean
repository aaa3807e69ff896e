import Flowplan.Http.Url
import Flowplan.Json.Parser
import Flowplan.Json.Printer
import Flowplan.Text.Charset

namespace Flowplan.Http.ContentType

/-- The pieces between semicolons; a semicolon between quotes does not
count, nor does a quote behind a backslash. -/
def pieces : Bool → Bool → List Char → List (List Char)
  | _, _, [] => [[]]
  | quoted, escaped, c :: cs =>
    if c == ';' && !quoted then [] :: pieces false false cs
    else
      match pieces (if c == '"' && !escaped then !quoted else quoted) (c == '\\') cs with
      | [] => [[c]]
      | piece :: rest => (c :: piece) :: rest

/-- A text without one backslash of each pair of a backslash and another character of a kind. -/
def dropBackslashes (kind : Char) : List Char → List Char
  | '\\' :: c :: cs =>
    if c == kind then c :: dropBackslashes kind cs else '\\' :: dropBackslashes kind (c :: cs)
  | c :: cs => c :: dropBackslashes kind cs
  | [] => []

def unquote (cs : List Char) : List Char :=
  let inner := (cs.drop 1).dropLast
  if cs.length < 2 then cs
  else if cs.head? == some '"' && cs.getLast? == some '"' then dropBackslashes '"'
    (dropBackslashes '\\' inner)
  else if cs.head? == some '<' && cs.getLast? == some '>' then inner
  else cs

def parameter (piece : List Char) : String × String :=
  let (name, value) := Text.cut '=' piece
  let trim := Text.trim Text.isBlank
  (String.ofList ((trim name).map Char.toLower), String.ofList (unquote (trim (value.getD []))))

def charset? (contentType : String) : Option Text.Charset :=
  (((pieces false false contentType.toList).map parameter).lookup "charset").bind
    Text.Charset.ofName?

end Flowplan.Http.ContentType

namespace Flowplan.Http

inductive Fault
  | badAddress (error : UrlError)
  | notAscii (header : String)
  | untyped (address : String)
  | endlessNumber
  | notJson (error : Json.ParseError)
  | undecodable (error : Text.DecodeError)
deriving DecidableEq

namespace Fault

def isAscii (c : Char) : Bool := c.toNat < 128

def hexadecimal (width n : Nat) : String :=
  let digits := Nat.toDigits 16 n
  String.ofList (List.replicate (width - digits.length) '0' ++ digits)

def codePoint (c : Char) : String :=
  if c.toNat < 0x100 then "\\x" ++ hexadecimal 2 c.toNat
  else if c.toNat < 0x10000 then "\\u" ++ hexadecimal 4 c.toNat
  else "\\U" ++ hexadecimal 8 c.toNat

def notAsciiMessage (header : String) : String :=
  let start := (header.toList.takeWhile isAscii).length
  let run := (header.toList.drop start).takeWhile (!isAscii ·)
  let which := match run with
    | [c] => s!"character '{codePoint c}' in position {start}"
    | run => s!"characters in position {start}-{start + run.length - 1}"
  s!"'ascii' codec can't encode {which}: ordinal not in range(128)"

def message : Fault → String
  | .badAddress error => error.message
  | .notAscii header => notAsciiMessage header
  | .untyped address => s!"unknown url type: {Text.quoted address}"
  | .endlessNumber => "Out of range float values are not JSON compliant"
  | .notJson error => error.message
  | .undecodable error => error.message

end Fault

structure Request where
  method : String
  url : Url
  identity : String × String
  body : Option Json
deriving DecidableEq

structure Response where
  status : Int
  contentType : Option String
  body : List UInt8
deriving DecidableEq

inductive Loss
  | broken (reason : String)
  | fault (fault : Fault)
deriving DecidableEq

abbrev Outcome := Except Loss Response

structure Client where
  base : Url
  identity : String × String
deriving DecidableEq

namespace Client

def connect (address : String) (identity : String × String) : Except Fault Client := do
  let base ← ((Url.parse address).bind Url.asBase).mapError .badAddress
  if identity.2.toList.all Fault.isAscii then return ⟨base, identity⟩
  else throw (.notAscii identity.2)

/-- Who asks: the user that the address names comes before the one that is authorised otherwise. -/
def identify (client : Client) : String × String :=
  match client.identity, client.base.authority.credentials? with
  | ("authorization", _), some word => ("authorization", s!"Basic {word}")
  | identity, _ => identity

def request (client : Client) (method path : String) (body : Option Json) :
    Except Fault Request := do
  let url ← (client.base.below path).mapError .badAddress
  if body.any (!·.isFinite) then throw .endlessNumber
  return ⟨method, url, client.identify, body⟩

end Client

/-- What a client makes of what comes back: its address has to say what it is the address of. -/
def Request.receive (request : Request) (outcome : Outcome) : Outcome :=
  outcome.bind fun response =>
    if request.url.isTyped then .ok response else .error (.fault (.untyped request.url.shown))

namespace Response

def isError (response : Response) : Bool := 400 ≤ response.status && response.status ≤ 599

def jsonType : String := "application/json"

def ofText (status : Int) (contentType text : String) : Response :=
  ⟨status, some contentType, Text.utf8 text⟩

/-- The response that carries a value. Null is carried by nothing at all. -/
def ofJson (status : Int) (value : Json) : Outcome :=
  match value with
  | .null => .ok ⟨status, none, []⟩
  | value =>
    if value.isFinite then .ok (ofText status jsonType (value.print .compact))
    else .error (.fault .endlessNumber)

def saysJson (response : Response) : Bool :=
  response.contentType.any fun contentType => Text.occursIn jsonType.toList contentType.toList

def charset (response : Response) : Text.Charset :=
  (response.contentType.bind ContentType.charset?).getD .utf8

def text (response : Response) : Except Fault String :=
  if response.body.isEmpty then .ok "" else
    ((response.charset.read response.body).map String.ofList).mapError .undecodable

def json (response : Response) : Except Fault Json := do
  let text ← (Text.readGuessing response.body).mapError .undecodable
  (Json.parse (String.ofList text)).mapError .notJson

def reason (response : Response) : String :=
  (phrases.lookup response.status).getD ""
where
  phrases : List (Int × String) := [
    (100, "Continue"), (101, "Switching Protocols"), (102, "Processing"), (103, "Early Hints"),
    (200, "OK"), (201, "Created"), (202, "Accepted"), (203, "Non-Authoritative Information"),
    (204, "No Content"), (205, "Reset Content"), (206, "Partial Content"), (207, "Multi-Status"),
    (208, "Already Reported"), (226, "IM Used"),
    (300, "Multiple Choices"), (301, "Moved Permanently"), (302, "Found"), (303, "See Other"),
    (304, "Not Modified"), (305, "Use Proxy"), (307, "Temporary Redirect"),
    (308, "Permanent Redirect"), (400, "Bad Request"), (401, "Unauthorized"),
    (402, "Payment Required"), (403, "Forbidden"), (404, "Not Found"), (405, "Method Not Allowed"),
    (406, "Not Acceptable"), (407, "Proxy Authentication Required"), (408, "Request Timeout"),
    (409, "Conflict"), (410, "Gone"), (411, "Length Required"), (412, "Precondition Failed"),
    (413, "Request Entity Too Large"), (414, "Request-URI Too Long"),
    (415, "Unsupported Media Type"), (416, "Requested Range Not Satisfiable"),
    (417, "Expectation Failed"), (418, "I'm a teapot"), (421, "Misdirected Request"),
    (422, "Unprocessable Entity"), (423, "Locked"), (424, "Failed Dependency"), (425, "Too Early"),
    (426, "Upgrade Required"), (428, "Precondition Required"), (429, "Too Many Requests"),
    (431, "Request Header Fields Too Large"), (451, "Unavailable For Legal Reasons"),
    (500, "Internal Server Error"), (501, "Not Implemented"), (502, "Bad Gateway"),
    (503, "Service Unavailable"), (504, "Gateway Timeout"), (505, "HTTP Version Not Supported"),
    (506, "Variant Also Negotiates"), (507, "Insufficient Storage"), (508, "Loop Detected"),
    (510, "Not Extended"), (511, "Network Authentication Required")]

end Response

end Flowplan.Http
