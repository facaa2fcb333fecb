import SenderPolicy.Http.Request
import SenderPolicy.Pattern.Match
import SenderPolicy.Pattern.Reader
import SenderPolicy.Text.CaseFold

/-!
# Sharing with pages of other origins

Browsers let a page use the service if the response names the page's origin. The allowed origins
are configured: an origin as it is, or a pattern of origins, of which an asterisk alone allows
every origin. A page of an allowed origin gets its own origin back.
-/

namespace SenderPolicy.Http

/-- An allowed origin. -/
inductive OriginRule
  /-- An origin, without regard to case. -/
  | literal (origin : Text)
  /-- The origins that a pattern matches from the start on; the pattern is kept as it is written. -/
  | matching (written : Text) (p : Pattern)
  deriving Repr

/-- A text that is meant as a pattern and is none. -/
structure BadOrigin where
  /-- The text. -/
  written : Text
  /-- Why it is none. -/
  fault : PatternFault
  deriving DecidableEq, Repr

/-- The wording of a text that is meant as a pattern and is none. -/
def BadOrigin.message (b : BadOrigin) : Text :=
  b.fault.message?.getD
    ("Invalid regular expression in Flask-CORS configuration: " ++ b.written.quoted)

/-- The pattern that matches everything. -/
def anyText : Text := ".*"

/-- The asterisk that stands for every origin. -/
def everyOrigin : Text := ['*']

namespace OriginRule

/-- The characters by which a pattern is told from an origin. -/
def signs : List CodePoint := "*\\]?$^[()"

/-- Reads an allowed origin. -/
def read (s : Text) : Except BadOrigin OriginRule :=
  let written := if s = everyOrigin then anyText else s
  if written.any signs.contains then
    match Pattern.read written with
    | .ok p => .ok (.matching written p)
    | .error f => .error ⟨s, f⟩
  else .ok (.literal s)

/-- Whether a page of an origin is allowed. -/
def allows (origin : Text) : OriginRule → Except MatchFault Bool
  | .literal s => .ok (s.fold = origin.fold)
  | .matching _ p => p.matchesStart origin

/-- Whether every page is allowed. -/
def isOpen : OriginRule → Bool
  | .literal _ => false
  | .matching written _ => written = anyText

/-- The origin, if it is written as it is. -/
def literal? : OriginRule → Option Text
  | .literal s => some s
  | .matching _ _ => none

end OriginRule

/-- The allowed origins of a configured text: its items between commas. The text as a whole has to
be an origin or a pattern as well. -/
def originsOf (s : Text) : Except BadOrigin (List OriginRule) := do
  let _ ← OriginRule.read s
  (Text.parts ',' s).mapM OriginRule.read

/-- The first of a list of texts in the order of code points. -/
def leastText? : List Text → Option Text
  | [] => none
  | s :: rest => some (rest.foldl (fun least t => if Text.isAtMost least t then least else t) s)

/-- The origin that a response names, given the allowed ones and the origin of the request. -/
def sharedOrigin? (allowed : List OriginRule) :
    (origin : Option Text) → Except MatchFault (Option Text)
  | some origin => do
    if ← allowed.anyM (OriginRule.allows origin) then pure (some origin) else pure none
  | none =>
    if allowed.any OriginRule.isOpen then .ok (some everyOrigin)
    else .ok (leastText? (allowed.filterMap OriginRule.literal?))

/-- The paths whose responses name an origin. -/
def isShared (path : Text) : Bool := ("/api" : Text).isPrefixOf (unescaped path)

/-- The header that names the shared origin. -/
def corsHeaders (allowed : List OriginRule) (r : Request) :
    Except MatchFault (List (String × Text)) := do
  if isShared r.path then
    match ← sharedOrigin? allowed ((r.header? "Origin").filter (!·.isEmpty)) with
    | some origin =>
      if origin.isEmpty then pure [] else pure [("Access-Control-Allow-Origin", origin)]
    | none => pure []
  else pure []

end SenderPolicy.Http
