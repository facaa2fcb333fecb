import SenderPolicy.Network.V6
import SenderPolicy.Term.Basic
import SenderPolicy.Text.Letter

/-!
# Reading terms

`Term.read` classifies one token of a record. A token is an optional qualifier and a body. The
keyword of a body ends at the first colon, slash or equals sign; it is read without regard to the
case of ASCII letters. Keyword and delimiter together select the form; a body of no known form
is a modifier if it holds an equals sign. A token that is not well formed has one `Malformation`.

Two tokens are no matter of form and end the reading of the whole record: the empty token, and a
CIDR length of more than `maxDigits` digits.
-/

namespace SenderPolicy

/-- What is wrong with a token. -/
inductive Malformation
  /-- Nothing follows the qualifier. -/
  | bareQualifier
  /-- Nothing follows the colon or equals sign of a keyword. -/
  | missingValue (keyword : Keyword)
  /-- The text is no IPv4 network. -/
  | badNetwork4
  /-- The text is no IPv6 network. -/
  | badNetwork6
  /-- A qualifier stands in front of a modifier. -/
  | qualifiedModifier
  /-- What follows the slash of a target is no pair of CIDR lengths. -/
  | badLength
  /-- The IPv4 CIDR length is above 32. -/
  | badLength4
  /-- The IPv6 CIDR length is above 128. -/
  | badLength6
  /-- The text before the equals sign is no name. -/
  | badModifierName
  /-- No mechanism has this keyword and form. -/
  | unknownMechanism
  deriving DecidableEq, Repr

/-- The wording of what is wrong with a token. -/
def Malformation.message (token : Text) : Malformation → Text
  | .bareQualifier => "Qualifier without mechanism in '" ++ token ++ "'"
  | .missingValue keyword => "'" ++ keyword.text ++ "' requires a value"
  | .badNetwork4 => "Invalid IPv4 address or network in '" ++ token ++ "'"
  | .badNetwork6 => "Invalid IPv6 address or network in '" ++ token ++ "'"
  | .qualifiedModifier => "Modifiers cannot take a qualifier: '" ++ token ++ "'"
  | .badLength => "Invalid CIDR length in '" ++ token ++ "'"
  | .badLength4 => "Invalid IPv4 CIDR length in '" ++ token ++ "'"
  | .badLength6 => "Invalid IPv6 CIDR length in '" ++ token ++ "'"
  | .badModifierName => "Invalid modifier name in '" ++ token ++ "'"
  | .unknownMechanism => "Unknown mechanism '" ++ token ++ "'"

/-- Why a token is not read as a term. -/
inductive TokenError
  /-- The token is not well formed. -/
  | malformed (malformation : Malformation)
  /-- There is no token. -/
  | empty
  /-- A CIDR length has more digits than can be read. -/
  | oversized (digits : Nat)
  deriving DecidableEq, Repr

/-- The CIDR lengths that follow the host of a target: the digits of either, if it is written. -/
structure Lengths where
  /-- The digits of the IPv4 length. -/
  v4 : Option Text
  /-- The digits of the IPv6 length. -/
  v6 : Option Text

namespace Lengths

/-- A slash and the decimal digits after it, of which there is at least one, and the rest. -/
def cutDigits? : Text → Option (Text × Text)
  | '/' :: rest =>
    let ds := rest.takeWhile isDecimalDigit
    if ds.isEmpty then none else some (ds, rest.dropWhile isDecimalDigit)
  | _ => none

/-- The IPv6 length, which stands after a second slash. -/
def readV6? (v4 : Option Text) : Text → Option Lengths
  | [] => some ⟨v4, none⟩
  | '/' :: rest =>
    match cutDigits? rest with
    | some (ds, []) => some ⟨v4, some ds⟩
    | _ => none
  | _ => none

/-- The lengths in what follows a host: `/n`, `//m` or `/n//m`, or nothing. -/
def read? (s : Text) : Option Lengths :=
  match cutDigits? s with
  | some (ds, rest) => readV6? (some ds) rest
  | none => readV6? none s

/-- The length that digits stand for is at most `bound`. -/
def checkBound (digits : Option Text) (bound : Nat) (m : Malformation) : Except TokenError Unit :=
  match digits with
  | none => .ok ()
  | some ds =>
    if maxDigits < ds.length then .error (.oversized ds.length)
    else if bound < decimalValue ds then .error (.malformed m)
    else .ok ()

end Lengths

/-- The lengths of a target are well formed and within bounds. A line feed at the very end is
passed over. -/
def checkLengths (target : Text) : Except TokenError Unit :=
  match Lengths.read? (Text.dropFinal '\n' (target.dropWhile (· ≠ .char '/'))) with
  | none => .error (.malformed .badLength)
  | some lengths => do
    Lengths.checkBound lengths.v4 Network.V4.width .badLength4
    Lengths.checkBound lengths.v6 Network.V6.width .badLength6

/-- The characters that may follow the first one in the name of a modifier. -/
def isNameChar (c : CodePoint) : Bool := isLatinAlnum c || c = '_' || c = '.' || c = '-'

/-- A name of a modifier; a line feed at the very end is passed over. -/
def isModifierName (s : Text) : Bool :=
  match Text.dropFinal '\n' s with
  | [] => false
  | c :: rest => isLatinLetter c && rest.all isNameChar

/-- What a body consists of: its keyword, and the rest from the delimiter on. -/
structure Body where
  /-- The keyword before the delimiter. -/
  keyword : Option Keyword
  /-- The delimiter and all that follows it. -/
  rest : Text

/-- The characters that end a keyword. -/
def isDelimiter (c : CodePoint) : Bool := c = ':' || c = '/' || c = '='

/-- There are three characters that end a keyword. -/
theorem isDelimiter_iff {c : CodePoint} : isDelimiter c = true ↔ c = ':' ∨ c = '/' ∨ c = '=' := by
  simp [isDelimiter, or_assoc]

/-- A body cut after its keyword. -/
def Body.ofText (s : Text) : Body :=
  ⟨Keyword.ofText? (Text.toLowerAscii (s.takeWhile (!isDelimiter ·))), s.dropWhile (!isDelimiter ·)⟩

/-- The term of a value that must not be empty. -/
def withValue (keyword : Keyword) (value : Text) (f : Text → Except TokenError Term) :
    Except TokenError Term :=
  if value.isEmpty then .error (.malformed (.missingValue keyword)) else f value

/-- The term of a target whose CIDR lengths are in order. -/
def withTarget (target : Text) (m : Text → Mechanism) (q : Qualifier) : Except TokenError Term :=
  (checkLengths target).map fun _ => .mechanism q (m target)

/-- The term of a body of no known form: a modifier if it holds an equals sign. -/
def readModifier (qualified : Bool) (body : Text) : Except TokenError Term :=
  if !body.contains '=' then .error (.malformed .unknownMechanism)
  else if qualified then .error (.malformed .qualifiedModifier)
  else if isModifierName (Text.before '=' body) then .ok (.modifier body)
  else .error (.malformed .badModifierName)

/-- The term of a body, given its qualifier and whether that is written. -/
def readBody (q : Qualifier) (qualified : Bool) (body : Text) : Except TokenError Term :=
  match (Body.ofText body).keyword, (Body.ofText body).rest with
  | some .all, [] => .ok (.mechanism q .all)
  | some .includes, ':' :: v => withValue .includes v fun v => .ok (.mechanism q (.includes v))
  | some .existence, ':' :: v => withValue .existence v fun v => .ok (.mechanism q (.existence v))
  | some .ip4, ':' :: v => withValue .ip4 v fun v =>
      if Network.V4.isNetwork v then .ok (.mechanism q (.ip4 v))
      else .error (.malformed .badNetwork4)
  | some .ip6, ':' :: v => withValue .ip6 v fun v =>
      if Network.V6.isNetwork v then .ok (.mechanism q (.ip6 v))
      else .error (.malformed .badNetwork6)
  | some .redirect, '=' :: v =>
      if qualified then .error (.malformed .qualifiedModifier)
      else withValue .redirect v fun v => .ok (.redirect v)
  | some .ptr, [] => .ok (.mechanism q (.ptr []))
  | some .ptr, ':' :: v => withValue .ptr v fun v => .ok (.mechanism q (.ptr v))
  | some .a, [] => withTarget [] .a q
  | some .a, ':' :: v => withValue .a v fun v => withTarget v .a q
  | some .a, '/' :: v => withTarget ('/' :: v) .a q
  | some .mx, [] => withTarget [] .mx q
  | some .mx, ':' :: v => withValue .mx v fun v => withTarget v .mx q
  | some .mx, '/' :: v => withTarget ('/' :: v) .mx q
  | _, _ => readModifier qualified body

/-- The term of a token. -/
def Term.read : Text → Except TokenError Term
  | [] => .error .empty
  | c :: rest =>
    match Qualifier.ofSymbol? c with
    | none => readBody .pass false (c :: rest)
    | some q => if rest.isEmpty then .error (.malformed .bareQualifier) else readBody q true rest

end SenderPolicy
