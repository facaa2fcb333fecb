import SenderPolicy.Http.Redirect
import SenderPolicy.Json.Basic
import SenderPolicy.RateLimit

/-!
# Responses

A response has a status, headers and a body, which is mostly JSON and may be missing. A request
that fails is answered by a problem: a status and a detail that tells what is wrong.
-/

namespace SenderPolicy.Http

/-- The body of a response. -/
inductive Body
  /-- Nothing. -/
  | none
  /-- A value. -/
  | json (value : Json)
  /-- A page to be shown. -/
  | page (markup : Text)

/-- A response. -/
structure Response where
  /-- The status. -/
  status : Int
  /-- The body. -/
  body : Body
  /-- The headers, each with its name. -/
  headers : List (String × Text)

/-- The kinds of problems that the service tells of. -/
inductive ProblemKind
  /-- Any problem. -/
  | general
  /-- The request cannot be understood. -/
  | badRequest
  deriving DecidableEq, Repr

/-- The status of a kind of problem, unless another one is chosen. -/
def ProblemKind.status : ProblemKind → Int
  | .general => 500
  | .badRequest => 400

/-- What is wrong with a request. -/
structure Problem where
  /-- The kind of the problem. -/
  kind : ProblemKind
  /-- What is wrong. -/
  detail : Text
  /-- The status, if it is not that of the kind. -/
  chosen : Option Int := none
  deriving DecidableEq, Repr

/-- A body that tells of a detail. -/
def detailBody (detail : Text) : Json := .object [("detail", .string detail)]

namespace Problem

variable (p : Problem)

/-- The status of the response. -/
def status : Int := p.chosen.getD p.kind.status

/-- The body of the response. -/
def body : Json := detailBody p.detail

end Problem

/-- The problem of a name that is no hostname. -/
def badDomain : Problem := ⟨.badRequest, "Invalid domain format", none⟩

/-- The problem of a text that is no candidate for a record. -/
def badRecord : Problem := ⟨.badRequest, "Invalid record", none⟩

/-- The problem of a request that cannot be processed. -/
def breakdown : Problem := ⟨.general, "An error occurred while processing your request", none⟩

namespace Response

/-- A response with a status and a detail. -/
def ofDetail (status : Int) (detail : Text) : Response := ⟨status, .json (detailBody detail), []⟩

/-- The response to a request with a problem. -/
def ofProblem (p : Problem) : Response := ⟨p.status, .json p.body, []⟩

/-- A response with a body. -/
def ok (body : Json) : Response := ⟨200, .json body, []⟩

/-- A response without a body. -/
def empty : Response := ⟨200, .none, []⟩

/-- The response that leads to another place. -/
def moved (place : Text) : Response := ⟨308, .page (movedPage place), []⟩

/-- The response to a path that leads nowhere. -/
def notFound : Response := ofDetail 404 "Resource not found"

/-- The response to a method that a path does not know. -/
def methodNotAllowed : Response :=
  ofDetail 405 "The method is not allowed for the requested URL."

/-- The response to a request that is sent in a way the service does not know. -/
def notUnderstood : Response :=
  ofDetail 400 "The browser (or proxy) sent a request that this server could not understand."

/-- The response to a request beyond the rate limit. -/
def tooManyRequests : Response := ofDetail 429 "Rate limit exceeded"

/-- The response to a request that cannot be processed. -/
def internalError : Response := ofProblem breakdown

/-- A response with more headers. -/
def withHeaders (r : Response) (headers : List (String × Text)) : Response :=
  { r with headers := r.headers ++ headers }

/-- A response without its body. -/
def withoutBody (r : Response) : Response := { r with body := .none }

end Response

/-- The headers that tell a client about its window. -/
def rateHeaders (a : Allowance) : List (String × Text) :=
  [("X-RateLimit-Limit", toString a.limit), ("X-RateLimit-Remaining", toString a.remaining),
   ("X-RateLimit-Reset", toString a.reset), ("Retry-After", toString a.retryAfter)]

end SenderPolicy.Http
