import SenderPolicy.Assessor
import SenderPolicy.Http.Cors
import SenderPolicy.Http.Response
import SenderPolicy.Http.Routing

/-!
# The service

The service answers requests for reports. A request passes through four steps: its path selects a
route and the route admits its method; the rate limit admits it, if the route is limited; the view
of the route makes the response; and the response gets the headers that tell of the limit and of
the shared origin. The limit is told as it stands when the response leaves, after the lookups that
the view made.
-/

namespace SenderPolicy.Http

/-- A service as it is configured. -/
structure Service (τ : Type) where
  /-- The version that is told. -/
  version : Json
  /-- Where the paths of the interface begin, without a slash at the end. -/
  base : Text
  /-- The allowed origins. -/
  origins : List OriginRule
  /-- Whether requests are limited. -/
  limiting : Bool
  /-- What requests are held to, if they are limited. -/
  rule : RateRule τ
  /-- How reports are made. -/
  assessor : Assessor τ

/-- What requests are held to. -/
def Service.activeRule {τ : Type} (s : Service τ) : RateRule τ :=
  if s.limiting then s.rule else .unlimited

/-- The world outside the service during a request. -/
structure Surroundings (τ : Type) where
  /-- The answers of the DNS. -/
  zone : Zone τ
  /-- The time in seconds. -/
  now : τ
  /-- The moment of the calendar. -/
  moment : Instant

/-- A response, the requests admitted so far and the lookups made for it. The response is lost if a
fault comes between. -/
structure Exchange (τ : Type) where
  /-- The response. -/
  response : Response
  /-- The requests that were admitted, this one included if it was. -/
  admissions : Admissions τ
  /-- The lookups, in their order. -/
  queries : List (Query τ)
  /-- Why the response is lost, if it is. -/
  fault : Option MatchFault

/-- The name that a value stands for, if it is a hostname. -/
def hostnameOf? : Json → Option Text
  | .string s => hostname? s
  | _ => none

/-- A field of the body, which is null if there is none. -/
def bodyField (r : Request) (name : String) : Except Problem Json :=
  match r.bodyObject with
  | .ok v => .ok (v.field name)
  | .error _ => .error breakdown

/-- The value that names the domain of a request: a field of the query for `GET`, and a field of
the body for every other method. -/
def domainValue (r : Request) : Except Problem Json :=
  match r.method with
  | .get => .ok (((r.queryField? "domain").map Json.string).getD .null)
  | _ => bodyField r "domain"

/-- The domain of a request. -/
def domainOf (r : Request) : Except Problem Text := do
  match hostnameOf? (← domainValue r) with
  | some name => pure name
  | none => .error badDomain

/-- The record of a request: a text that is not blank. -/
def recordOf (r : Request) : Except Problem Text := do
  match ← bodyField r "record" with
  | .string s => if (Text.trim s).isEmpty then .error badRecord else pure s
  | _ => .error badRecord

/-- The response with a report. -/
def ofReport {τ : Type} (t : Traced τ Report) : Response × List (Query τ) :=
  match t.outcome with
  | .ok r => (.ok r.toJson, t.queries)
  | .error _ => (.internalError, t.queries)

namespace Service

variable {τ : Type} [Seconds τ] (s : Service τ) (w : Surroundings τ)

/-- The response to a request for a report on a published record. -/
def viewPublished (r : Request) : Response × List (Query τ) :=
  match domainOf r with
  | .error p => (.ofProblem p, [])
  | .ok domain => ofReport (s.assessor.assess w.zone w.now w.moment domain)

/-- The response to a request for a report on a given record. -/
def viewGiven (r : Request) : Response × List (Query τ) :=
  match domainOf r with
  | .error p => (.ofProblem p, [])
  | .ok domain =>
    match recordOf r with
    | .error p => (.ofProblem p, [])
    | .ok raw => ofReport (s.assessor.assessRecord w.zone w.now w.moment domain raw)

/-- The state of the service. -/
def health : Json :=
  .object [("status", .string "ok"), ("timestamp", .string w.moment.render), ("version", s.version)]

/-- The response of a route to a request with a method that it admits. -/
def view (route : Route) (r : Request) : Response × List (Query τ) :=
  if r.method = .options then (.empty, [])
  else match route with
    | .published => s.viewPublished w r
    | .given => s.viewGiven w r
    | .health => (.ok (s.health w), [])
    | .asset => (.notFound, [])

/-- The response of a limited route: that of its view, if the limit admits the request. -/
def limitedView (l : RateLimit τ) (a : Admissions τ) (route : Route) (r : Request) : Exchange τ :=
  if l.admits w.now (a.times r.client) then
    let admitted : Admissions τ := (r.client, w.now) :: a
    let (response, queries) := s.view w route r
    let told := l.allowance (w.zone.after w.now queries) (admitted.times r.client)
    ⟨response.withHeaders (rateHeaders told), admitted, queries, none⟩
  else
    let told := l.allowance w.now (a.times r.client)
    ⟨Response.tooManyRequests.withHeaders (rateHeaders told), a, [], none⟩

/-- The response of a route to a request with a method that it admits, under the rule that the
route is held to. -/
def serve (a : Admissions τ) (route : Route) (r : Request) : Exchange τ :=
  match if route.isLimited then s.activeRule else .unlimited with
  | .limited l => s.limitedView w l a route r
  | .unmeasured => ⟨.internalError, a, [], none⟩
  | .unlimited =>
    let (response, queries) := s.view w route r
    ⟨response, a, queries, none⟩

/-- The response to a request, without the headers of the shared origin. -/
def respond (a : Admissions τ) (r : Request) : Exchange τ :=
  if !r.isHostWellFormed then ⟨.notUnderstood, a, [], none⟩
  else match destination s.base r.method r.isTwoWay r.path with
    | .route route => s.serve w a route r
    | .moved path => ⟨.moved (r.placeOf path), a, [], none⟩
    | .wrongMethod => ⟨.methodNotAllowed, a, [], none⟩
    | .oneWayOnly => ⟨.notUnderstood, a, [], none⟩
    | .nowhere => ⟨.notFound, a, [], none⟩

/-- The response to a request, after the admitted requests `a`. A request that is named `HEAD` in
capitals gets no body. -/
def handle (a : Admissions τ) (r : Request) : Exchange τ :=
  let e := s.respond w a r
  match corsHeaders s.origins r with
  | .error f => { e with fault := some f }
  | .ok headers =>
    let response := e.response.withHeaders headers
    { e with response := if r.verb = "HEAD" then response.withoutBody else response }

end Service

end SenderPolicy.Http
