import SenderPolicy.Http.ListHeader
import SenderPolicy.Http.Target
import SenderPolicy.Json.Reader
import SenderPolicy.Text.Encoding
import SenderPolicy.Text.Letter
import SenderPolicy.Text.Lowercase

/-!
# Requests

What the service reads off an HTTP request: its path and the fields of its query, both with their
percent escapes undone, the values of its headers, the object in its body, the client that it
comes from, and the scheme and host that it was sent to. Proxies tell the last three in headers of
their own, of which the last item counts.
-/

namespace SenderPolicy.Http

/-- The method of a request. -/
inductive Method
  /-- Ask for a resource. -/
  | get
  /-- Ask for the headers alone. -/
  | head
  /-- Send a body. -/
  | post
  /-- Ask what may be asked. -/
  | options
  /-- Any other method. -/
  | other
  deriving DecidableEq, Repr

/-- The methods that a resource may admit, in alphabetical order. -/
def Method.known : List Method := [.get, .head, .options, .post]

/-- The name of a method. -/
def Method.name : Method → String
  | .get => "GET"
  | .head => "HEAD"
  | .post => "POST"
  | .options => "OPTIONS"
  | .other => ""

/-- The method of a name in letters of either case. -/
def Method.ofName (name : Text) : Method :=
  (known.find? (Text.ofString ·.name = name.capitals)).getD .other

/-- A request. -/
structure Request where
  /-- The name of the method. -/
  verb : Text
  /-- The target, without its query. -/
  target : Text
  /-- The query as it is written in the target. -/
  query : Text
  /-- The headers, each with its name. -/
  headers : List (Text × Text)
  /-- The bytes of the body. -/
  body : List UInt8
  /-- The address at the other end of the connection. -/
  peer : Text

/-- The bytes of a text in which a percent sign and two hexadecimal digits stand for a byte. A
percent sign that is not followed by two such digits stands for itself. -/
def unescape : Text → List UInt8
  | [] => []
  | '%' :: a :: b :: rest =>
    match hexValue? a, hexValue? b with
    | some x, some y => UInt8.ofNat (16 * x + y) :: unescape rest
    | _, _ => 0x25 :: unescape (a :: b :: rest)
  | c :: rest => Utf8.bytesOf c ++ unescape rest

/-- A text with its percent escapes undone. -/
def unescaped (s : Text) : Text := Utf8.decode (unescape s)

/-- A name or value of a query, in which a plus sign stands for a blank. -/
def queryText (s : Text) : Text := unescaped (s.map fun c : CodePoint => if c = '+' then ' ' else c)

/-- The fields of a query. A field without an equals sign has an empty value. -/
def queryFields (query : Text) : List (Text × Text) :=
  ((Text.parts '&' query).filter (!·.isEmpty)).map fun field =>
    let name := Text.before '=' field
    (queryText name, queryText (field.drop (name.length + 1)))

/-- The value that a body of JSON stands for. -/
def readBody (bytes : List UInt8) : Except Json.Fault Json :=
  let (encoding, bytes) := Encoding.detect bytes
  (Json.orMalformed (encoding.decode? bytes)) >>= Json.read

/-- The form in which names of headers are compared: without regard to case, and with no
difference between hyphens and low lines. -/
def headerKey (name : Text) : Text :=
  (Text.capitals name).map fun c : CodePoint => if c = '-' then '_' else c

namespace Request

variable (r : Request)

/-- The method. -/
def method : Method := .ofName r.verb

/-- The address that the request was sent to. -/
def address : Target := .read r.target

/-- The path with its percent escapes undone. It begins with one slash, and an authority that the
path itself begins with is cut off. -/
def path : Text :=
  "/" ++ (unescaped (Target.read r.address.path).path).dropWhile (· = .char '/')

/-- The value of the first field of the query with a name. -/
def queryField? (name : String) : Option Text := (queryFields r.query).lookup (name : Text)

/-- The value of a header. The values of several headers of one name are joined to a list. -/
def header? (name : String) : Option Text :=
  match r.headers.filter fun h => headerKey h.1 = headerKey name with
  | [] => none
  | hs => some (Text.joined ", " (hs.map (·.2)))

/-- The first header that declares the type of the body. -/
def contentType : Text :=
  ((r.headers.find? fun h => Text.toLowerAscii h.1 = "content-type").map (·.2)).getD []

/-- The media type of the body, in small letters and without its parameters. -/
def mediaType : Text := Text.lower (trimPadding (Text.before ';' r.contentType))

/-- Whether the body is declared to be JSON. -/
def isJson : Bool :=
  r.mediaType = "application/json" ||
    (("application/" : Text).isPrefixOf r.mediaType && ("+json" : Text).isSuffixOf r.mediaType)

/-- The object in the body. A body that is no JSON, or holds no object, counts as an empty one; a
body in which values stand in each other too deep is not read. -/
def bodyObject : Except Json.Fault Json :=
  if r.isJson then
    match readBody r.body with
    | .ok (.object fields) => .ok (.object fields)
    | .error .tooDeep => .error .tooDeep
    | _ => .ok (.object [])
  else .ok (.object [])

/-- What the nearest proxy tells in a header: the last item of the list, unless it is empty. -/
def forwarded? (name : String) : Option Text :=
  (((r.header? name).bind fun v => (listItems v).getLast?)).filter (!·.isEmpty)

/-- The address that stands for an unknown peer. -/
def unknownPeer : Text := "127.0.0.1"

/-- The client: the address that the nearest proxy tells, or else the peer. -/
def client : Text :=
  (r.forwarded? "X-Forwarded-For").getD (if r.peer.isEmpty then unknownPeer else r.peer)

/-- The scheme that the request was sent with. -/
def scheme : Text :=
  (r.forwarded? "X-Forwarded-Proto").getD
    (if r.address.scheme.isEmpty then "http" else r.address.scheme)

/-- The host that is asked, if nothing tells another one. -/
def ownHost : Text := "localhost"

/-- The host that the request was sent to. -/
def host : Text :=
  ((r.forwarded? "X-Forwarded-Host").or (r.header? "Host")).getD
    (if r.address.authority.isEmpty then ownHost else r.address.authority)

/-- Whether the request asks for a connection on which both sides send at any time. -/
def isTwoWay : Bool :=
  let asks := (Text.parts ',' ((r.header? "Connection").getD [])).any fun item =>
    Text.trim (Text.lower item) = "upgrade"
  r.scheme = "ws" || r.scheme = "wss" ||
    (asks && Text.lower ((r.header? "Upgrade").getD []) = "websocket")

end Request

end SenderPolicy.Http
