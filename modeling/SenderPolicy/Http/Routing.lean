import SenderPolicy.Http.Request

/-!
# Routes

A path selects a route, and a route admits some methods. A path with several slashes in a row that
selects no route leads to the path with single ones, if that selects a route. A request that only
routes with other methods cover has the wrong method, and a request for a connection of both sides
has no route at all.
-/

namespace SenderPolicy.Http

/-- What a path leads to. -/
inductive Route
  /-- Files, of which the service has none. -/
  | asset
  /-- Reports on the records that domains publish. -/
  | published
  /-- Reports on records that are given. -/
  | given
  /-- The state of the service. -/
  | health
  deriving DecidableEq, Repr

/-- A text in which single slashes stand for the slashes in a row. -/
def mergeSlashes : Text → Text
  | [] => []
  | c :: rest =>
    if c = '/' && rest.head? = some '/' then mergeSlashes rest else c :: mergeSlashes rest

/-- Merged slashes are merged once and for all. -/
theorem mergeSlashes_mergeSlashes (s : Text) : mergeSlashes (mergeSlashes s) = mergeSlashes s := by
  have hd : ∀ s : Text, (mergeSlashes s).head? = s.head? := by
    intro s
    induction s with
    | nil => rfl
    | cons c s ih =>
      unfold mergeSlashes
      split
      · rename_i h
        simp only [Bool.and_eq_true, decide_eq_true_eq] at h
        rw [ih, h.2, h.1]
        rfl
      · rfl
  induction s with
  | nil => rfl
  | cons c s ih =>
    rw [mergeSlashes]
    split
    · exact ih
    · rename_i h
      rw [mergeSlashes, hd, if_neg h, ih]

namespace Route

/-- The routes, those that name a single path first. -/
def all : List Route := [.published, .given, .health, .asset]

/-- The path of a route as it is written, where `base` is the path of the interface. -/
def pattern (base : Text) : Route → Text
  | .asset => "/static/<path:filename>"
  | .published => base ++ "/spf"
  | .given => base ++ "/spf/record"
  | .health => "/health"

/-- Whether a route admits a method. -/
def admits : Route → Method → Bool
  | _, .other => false
  | .published, _ => true
  | .given, m => m = .post || m = .options
  | .health, m => m ≠ .post
  | .asset, m => m ≠ .post

/-- The methods that a route admits. -/
def methods (r : Route) : List Method := Method.known.filter r.admits

/-- Whether a route covers a path. -/
def covers (base : Text) (r : Route) (path : Text) : Bool :=
  match r with
  | .asset =>
    let name := path.drop 8
    ("/static/" : Text).isPrefixOf path && name.head?.any (· ≠ .char '/') &&
      !(name.drop 1).contains '\n'
  | r => path = mergeSlashes (r.pattern base)

/-- Whether the requests of a route are limited. -/
def isLimited : Route → Bool
  | .published | .given => true
  | .health | .asset => false

end Route

/-- Where a request leads. -/
inductive Destination
  /-- To a route. -/
  | route (r : Route)
  /-- To another path. -/
  | moved (path : Text)
  /-- To routes that admit other methods. -/
  | wrongMethod
  /-- To routes that answer once and no more. -/
  | oneWayOnly
  /-- Nowhere. -/
  | nowhere
  deriving DecidableEq, Repr

/-- Where a request with a method leads. -/
def destination (base : Text) (m : Method) (twoWay : Bool) (path : Text) : Destination :=
  let fits (path : Text) (r : Route) : Bool := r.covers base path && r.admits m && !twoWay
  let merged := mergeSlashes path
  match Route.all.find? (fits path), Route.all.find? (fits merged) with
  | some r, _ => .route r
  | none, some _ => .moved merged
  | none, none =>
    let near := Route.all.filter fun r => r.covers base path || r.covers base merged
    if near.any (!·.admits m) then .wrongMethod
    else if near.isEmpty then .nowhere
    else .oneWayOnly

/-- A route that a request leads to covers its path and admits its method. -/
theorem fits_of_destination {base path : Text} {m : Method} {twoWay : Bool} {r : Route}
    (h : destination base m twoWay path = .route r) :
    (r.covers base path && r.admits m && !twoWay) = true := by
  unfold destination at h
  simp only at h
  split at h
  · rename_i q hq
    cases h
    have hfits := List.find?_some hq
    exact hfits
  · cases h
  · split at h
    · cases h
    · split at h <;> cases h

/-- A request that leads to a route has a method that the route admits. -/
theorem admits_of_destination {base path : Text} {m : Method} {twoWay : Bool} {r : Route}
    (h : destination base m twoWay path = .route r) : r.admits m = true := by
  have hfits := fits_of_destination h
  simp only [Bool.and_eq_true] at hfits
  exact hfits.1.2

end SenderPolicy.Http
