import PromptLibrary.Encoding.Base64
import PromptLibrary.Json.Compact
import PromptLibrary.Text.Unencodable
import PromptLibrary.Url.Basic
/-!
# Exchanges over HTTP

A service is reached by requests that are answered one after the other. A request is sent in its
usual form: to the address as it is written anew, and in the name of the user whom the address
names. What was sent is kept in a log.
-/

namespace PromptLibrary.Model

structure HttpRequest where
  method : String
  url : String
  headers : List (String × String)
  payload : Option Value

/-- What comes back for a request. -/
inductive HttpReply where
  | response (status : Nat) (body : String)
  | connectError (message : String)
  deriving DecidableEq, Repr

/-- What happened on the network. -/
inductive HttpEvent where
  /-- A connection was opened, with a limit in seconds. -/
  | opened (timeout : Nat)
  | sent (request : HttpRequest)

/-- The replies that are to come, and what has happened so far. -/
structure Exchange where
  replies : List HttpReply := []
  log : List HttpEvent := []

/-- Why a request got no answer that can be used. -/
inductive HttpError where
  | connect (message : String)
  | status (code : Nat) (url : String)
  | address (e : UrlError)
  /-- A header holds characters outside ASCII. -/
  | header (value : Text)
  /-- The payload, written without blanks, holds a surrogate half, which has no encoding. -/
  | payload (body : Text)
  /-- A reply came for an address that does not say where it leads. -/
  | placeless (url : String)
  deriving DecidableEq, Repr

/-- The phrase that goes with a status. -/
def statusPhrase (code : Nat) : String :=
  let phrases : List (Nat × String) :=
    [(100, "Continue"), (101, "Switching Protocols"), (102, "Processing"), (103, "Early Hints"),
      (300, "Multiple Choices"), (301, "Moved Permanently"), (302, "Found"), (303, "See Other"),
      (304, "Not Modified"), (305, "Use Proxy"), (307, "Temporary Redirect"),
      (308, "Permanent Redirect"), (400, "Bad Request"), (401, "Unauthorized"),
      (402, "Payment Required"), (403, "Forbidden"), (404, "Not Found"),
      (405, "Method Not Allowed"), (406, "Not Acceptable"),
      (407, "Proxy Authentication Required"), (408, "Request Timeout"), (409, "Conflict"),
      (410, "Gone"), (411, "Length Required"), (412, "Precondition Failed"),
      (413, "Request Entity Too Large"), (414, "Request-URI Too Long"),
      (415, "Unsupported Media Type"), (416, "Requested Range Not Satisfiable"),
      (417, "Expectation Failed"), (418, "I'm a teapot"), (421, "Misdirected Request"),
      (422, "Unprocessable Entity"), (423, "Locked"), (424, "Failed Dependency"),
      (425, "Too Early"), (426, "Upgrade Required"), (428, "Precondition Required"),
      (429, "Too Many Requests"), (431, "Request Header Fields Too Large"),
      (451, "Unavailable For Legal Reasons"), (500, "Internal Server Error"),
      (501, "Not Implemented"), (502, "Bad Gateway"), (503, "Service Unavailable"),
      (504, "Gateway Timeout"), (505, "HTTP Version Not Supported"),
      (506, "Variant Also Negotiates"), (507, "Insufficient Storage"), (508, "Loop Detected"),
      (510, "Not Extended"), (511, "Network Authentication Required")]
  ((phrases.find? (·.1 = code)).map (·.2)).getD ""

/-- What kind of failure a status tells of. -/
def statusKind (code : Nat) : String :=
  if code / 100 = 1 then "Informational response"
  else if code / 100 = 3 then "Redirect response"
  else if code / 100 = 4 then "Client error"
  else if code / 100 = 5 then "Server error"
  else "Invalid status code"

def HttpError.message : HttpError → String
  | connect m => m
  | status code url =>
    s!"{statusKind code} '{code} {statusPhrase code}' for url '{url}'\n" ++
      "For more information check: " ++
      s!"https://developer.mozilla.org/en-US/docs/Web/HTTP/Status/{code}"
  | address e => e.message
  | header value => Text.asciiRepertoire.message value
  | payload body => Text.utf8Repertoire.message body
  | placeless url => s!"unknown url type: {Text.quotedString url.toList}"

/-- Whether a failure is one of the two sides, and not one of the request itself. -/
def HttpError.isOfExchange : HttpError → Bool
  | connect _ => true
  | status _ _ => true
  | _ => false

namespace HttpRequest

/-- The header that names a user with a password. -/
def basicHeader (name password : List Char) : String × String :=
  let bytes := Encoding.Utf8.encode (name ++ ':' :: password)
  ("Authorization", "Basic " ++ String.ofList (Encoding.Base64.encode bytes))

/-- The headers with one of them in place of those of its name. -/
def withHeader (header : String × String) (headers : List (String × String)) :
    List (String × String) :=
  headers.map fun h => if h.1 = header.1 then header else h

/-- What cannot be encoded among some texts. -/
def unencodable? (r : Text.Repertoire) (texts : List Text) : Option Text :=
  texts.find? (!r.hasAll ·)

/--
Whether a request in its usual form leads somewhere. Only an address that does not begins with a
slash.
-/
def leadsSomewhere (request : HttpRequest) : Bool :=
  request.url.toList.head? ≠ some '/'

/-- A request in the form in which it is sent. -/
def usual (request : HttpRequest) : Except HttpError HttpRequest := do
  let url ← (Url.resolve request.url.toList).mapError .address
  let values := request.headers.map fun h => Text.ofString h.2
  if let some t := unencodable? Text.asciiRepertoire values then throw (.header t)
  let bodies := (request.payload.map Json.compact).toList
  if let some t := unencodable? Text.utf8Repertoire bodies then throw (.payload t)
  if let some t := unencodable? Text.asciiRepertoire [Text.ofChars url.place] then
    throw (.header t)
  let headers := match url.credentials? with
    | none => request.headers
    | some (name, password) => withHeader (basicHeader name password) request.headers
  return { request with url := url.text, headers }

end HttpRequest

namespace Exchange

/--
Sends a request and takes the next reply; without one, the service is out of reach. Only a status
from 200 to 299 is a success.
-/
def send (timeout : Nat) (request : HttpRequest) : ExceptT HttpError (StateM Exchange) String := do
  modify fun x => { x with log := x.log ++ [.opened timeout] }
  match request.usual with
  | .error e => throw e
  | .ok request =>
    let x ← get
    let (reply, more) := match x.replies with
      | [] => (HttpReply.connectError "All connection attempts failed", [])
      | reply :: more => (reply, more)
    set { replies := more, log := x.log ++ [.sent request] : Exchange }
    match reply with
    | .connectError m => throw (.connect m)
    | .response code body =>
      if !request.leadsSomewhere then throw (.placeless request.url)
      else if 200 ≤ code ∧ code < 300 then return body
      else throw (.status code request.url)

end Exchange

end PromptLibrary.Model
