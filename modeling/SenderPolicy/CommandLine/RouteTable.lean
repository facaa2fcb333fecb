import SenderPolicy.Http.Routing
import SenderPolicy.Text.Layout

/-!
# Tables of routes

A table of routes has a row for each of them: its name, the methods that it admits, and its path.
-/

namespace SenderPolicy.CommandLine

/-- The name under which a route is listed. -/
def routeName : Http.Route → Text
  | .asset => "static"
  | .published => "api.spf_endpoint"
  | .given => "api.spf_record_endpoint"
  | .health => "health_check"

/-- The routes in the order in which the service sets them up. -/
def listedRoutes : List Http.Route := [.asset, .published, .given, .health]

/-- The orders of a table. -/
inductive RouteOrder
  /-- By the column of a number. -/
  | byColumn (column : Nat)
  /-- As the routes are set up. -/
  | asListed
  deriving DecidableEq, Repr

/-- The order of a name. -/
def RouteOrder.ofName (name : Text) : RouteOrder :=
  match name.toString with
  | "endpoint" => .byColumn 0
  | "methods" => .byColumn 1
  | "rule" => .byColumn 2
  | _ => .asListed

/-- The row of a route, with all its methods or with those alone that it is set up for. -/
def routeRow (base : Text) (allMethods : Bool) (r : Http.Route) : List Text :=
  let shown := r.methods.filter fun m => allMethods || (m ≠ .head && m ≠ .options)
  [routeName r, Text.joined ", " (shown.map (·.name)), r.pattern base]

/-- Rows in an order; equal ones stay as they are. -/
def sortRows (order : RouteOrder) (rows : List (List Text)) : List (List Text) :=
  match order with
  | .byColumn i => rows.mergeSort fun r s => Text.isAtMost (r.getD i []) (s.getD i [])
  | .asListed => rows

/-- The table of the routes of a service whose interface has a path. -/
def routeTable (base : Text) (order : RouteOrder) (allMethods : Bool) : Text :=
  let rows := sortRows order (listedRoutes.map (routeRow base allMethods))
  let head : List Text := ["Endpoint", "Methods", "Rule"]
  (Text.table head rows).flatMap (· ++ "\n")

/-- Sorting keeps the rows. -/
theorem mem_sortRows {order : RouteOrder} {rows : List (List Text)} {row : List Text} :
    row ∈ sortRows order rows ↔ row ∈ rows := by
  cases order with
  | byColumn i => exact List.mem_mergeSort
  | asListed => rfl

end SenderPolicy.CommandLine
