import SenderPolicy.Http.Request

/-!
# Redirections

A request that leads to another path is answered by a page with a link to the place where the
other path is found: the scheme and the host of the request, the path in its written form, and the
query of the request.
-/

namespace SenderPolicy.Http

/-- Whether a byte stands for itself in a written path. -/
def isPathByte (b : UInt8) : Bool :=
  let c := CodePoint.ofNat b.toNat
  c.isAlphanum || ("-._~!$&'()*+,/:;=@" : Text).contains c

/-- The written form of a path, in which other bytes are percent escapes. -/
def writePath (path : Text) : Text :=
  (Utf8.encode path).flatMap fun b =>
    if isPathByte b then [CodePoint.ofNat b.toNat]
    else "%" ++ (hexDigits 2 b.toNat).map CodePoint.toUpper

/-- A character as it is written in a page. -/
def markupChar (c : CodePoint) : Text :=
  if c = '&' then "&amp;"
  else if c = '<' then "&lt;"
  else if c = '>' then "&gt;"
  else if c = '\'' then "&#39;"
  else if c = '"' then "&#34;"
  else [c]

/-- The ports that are left out, each with the schemes for which it is. -/
def impliedPorts : List (Text × List Text) :=
  [(":80", ["http", "ws"]), (":443", ["https", "wss"])]

namespace Request

variable (r : Request)

/-- The host in small letters, without a port that the scheme implies. -/
def publicHost : Text :=
  let implied := impliedPorts.find? fun p =>
    p.2.contains r.scheme && p.1.isSuffixOf r.host
  let port := (implied.map (·.1.length)).getD 0
  Text.lower (r.host.take (r.host.length - port))

/-- Whether every label of the host has a length that labels can have. Only the last one may be
empty. -/
def isHostWellFormed : Bool :=
  let labels := Text.parts '.' (Text.before ':' r.publicHost)
  labels.all (·.length ≤ 63) && labels.dropLast.all (!·.isEmpty)

/-- The place where a path is found on the host of the request. -/
def placeOf (path : Text) : Text :=
  let query : Text := if r.query.isEmpty then [] else "?" ++ r.query
  r.scheme ++ "://" ++ r.publicHost ++ writePath path ++ query

end Request

/-- The page that leads to another place. -/
def movedPage (place : Text) : Text :=
  let link := place.flatMap markupChar
  "<!doctype html>\n<html lang=en>\n<title>Redirecting...</title>\n<h1>Redirecting...</h1>\n" ++
    "<p>You should be redirected automatically to the target URL: <a href=\"" ++ link ++ "\">" ++
    link ++ "</a>. If not, click the link.\n"

end SenderPolicy.Http
