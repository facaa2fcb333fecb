import SenderPolicy.CommandLine

/-!
# Histories

Over time a service is sent requests, and the requests that it admitted are purged by the command
for that. A history is what has happened to it since it was started. What the service keeps of its
history are the admitted requests, and through them alone does it answer one request otherwise than
another.
-/

namespace SenderPolicy.Http

/-- What can happen to a service. -/
inductive Event
  /-- It is sent a request. -/
  | request (r : Request)
  /-- The admitted requests are purged. -/
  | purge

/-- What happened to a service, and the world around it at that time. -/
structure Occurrence (τ : Type) where
  /-- The world around the service. -/
  surroundings : Surroundings τ
  /-- What happened. -/
  event : Event

/-- The time at which something happened. -/
def Occurrence.now {τ : Type} (o : Occurrence τ) : τ := o.surroundings.now

/-- What has happened to a service, the latest first. -/
abbrev History (τ : Type) := List (Occurrence τ)

namespace Service

variable {τ : Type} [Seconds τ] (s : Service τ)

/-- The admitted requests that are kept after a history. -/
def admissionsAfter : History τ → Admissions τ
  | [] => []
  | ⟨w, .request r⟩ :: h => (s.handle w (admissionsAfter h) r).admissions
  | ⟨w, .purge⟩ :: h =>
    (CommandLine.run s w (admissionsAfter h) ["purge-rate-limits"]).admissions

/-- The exchange in which a request is answered after a history. -/
def answer (h : History τ) (w : Surroundings τ) (r : Request) : Exchange τ :=
  s.handle w (s.admissionsAfter h) r

/-- Whether a request is held to the rate limit: it leads to a limited route. -/
def isHeld (r : Request) : Bool :=
  r.isHostWellFormed &&
    match destination s.base r.method r.isTwoWay r.path with
    | .route route => route.isLimited
    | _ => false

end Service

end SenderPolicy.Http
