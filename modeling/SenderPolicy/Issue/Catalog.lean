import SenderPolicy.Text.Basic

/-!
# The catalogue of issues

What can be said against a record and the chain that it opens. Every kind of issue has one entry:
its severity, its title, a description and a recommendation. Some titles end in a detail.
-/

namespace SenderPolicy

/-- How much an issue weighs. -/
inductive Severity
  /-- Receivers reject the record. -/
  | error
  /-- The record works, but not as it should. -/
  | warning
  deriving DecidableEq, Repr

/-- The word for a severity. -/
def Severity.word : Severity → String
  | .error => "error"
  | .warning => "warning"

/-- The rank of a severity. -/
def Severity.rank : Severity → Nat
  | .error => 3
  | .warning => 2

/-- The kinds of issues, in the order of the catalogue. -/
inductive IssueKind
  /-- The record does not begin with the version tag. -/
  | missingVersion
  /-- A term of the record is not well formed. -/
  | syntaxError
  /-- More lookups are charged than allowed. -/
  | tooManyLookups
  /-- The record has no `all` mechanism. -/
  | missingAll
  /-- The record has modifiers of unknown names. -/
  | unknownModifier
  /-- The domain publishes several records. -/
  | multipleRecords
  /-- A reference leads back to a domain under evaluation. -/
  | includeLoop
  /-- The last `all` mechanism passes every sender. -/
  | permissiveAll
  /-- The last `all` mechanism says nothing about other senders. -/
  | neutralAll
  /-- A redirect stands beside an `all` mechanism. -/
  | redirectWithAll
  /-- Mechanisms stand after the first `all`. -/
  | termsAfterAll
  /-- The record uses a `ptr` mechanism. -/
  | ptrMechanism
  /-- As many lookups are charged as allowed, or one less. -/
  | approachingLookupLimit
  /-- A domain that is referred to has no record. -/
  | includeMissingRecord
  /-- The record of a domain that is referred to is not well formed. -/
  | includeInvalidRecord
  /-- The lookup of a domain that is referred to failed. -/
  | lookupFailed
  /-- The allowed time was used up. -/
  | resolutionTimeout
  /-- The domain has no record. -/
  | missingRecord
  deriving DecidableEq, Repr

namespace IssueKind

/-- All kinds, in the order of the catalogue. -/
def all : List IssueKind :=
  [.missingVersion, .syntaxError, .tooManyLookups, .missingAll, .unknownModifier,
   .multipleRecords, .includeLoop, .permissiveAll, .neutralAll, .redirectWithAll, .termsAfterAll,
   .ptrMechanism, .approachingLookupLimit, .includeMissingRecord, .includeInvalidRecord,
   .lookupFailed, .resolutionTimeout, .missingRecord]

/-- The word for a kind. -/
def word : IssueKind → String
  | .missingVersion => "missing_version"
  | .syntaxError => "syntax_error"
  | .tooManyLookups => "too_many_lookups"
  | .missingAll => "missing_all"
  | .unknownModifier => "unknown_modifier"
  | .multipleRecords => "multiple_records"
  | .includeLoop => "include_loop"
  | .permissiveAll => "permissive_all"
  | .neutralAll => "neutral_all"
  | .redirectWithAll => "redirect_with_all"
  | .termsAfterAll => "terms_after_all"
  | .ptrMechanism => "ptr_mechanism"
  | .approachingLookupLimit => "approaching_lookup_limit"
  | .includeMissingRecord => "include_missing_record"
  | .includeInvalidRecord => "include_invalid_record"
  | .lookupFailed => "lookup_failed"
  | .resolutionTimeout => "resolution_timeout"
  | .missingRecord => "missing_record"

/-- The kind of a word. -/
def ofWord? (s : String) : Option IssueKind := all.find? (·.word = s)

/-- The severity of a kind. -/
def severity : IssueKind → Severity
  | .missingVersion | .syntaxError | .tooManyLookups | .multipleRecords | .includeLoop
  | .includeMissingRecord | .includeInvalidRecord | .resolutionTimeout | .missingRecord => .error
  | _ => .warning

/-- Whether the title of a kind ends in a detail. -/
def hasDetail : IssueKind → Bool
  | .syntaxError | .unknownModifier | .includeLoop | .termsAfterAll
  | .approachingLookupLimit | .includeMissingRecord | .includeInvalidRecord | .lookupFailed
  | .resolutionTimeout => true
  | _ => false

/-- The title of a kind, without a detail. -/
def title : IssueKind → String
  | .missingVersion => "Missing SPF Version"
  | .syntaxError => "SPF Syntax Error"
  | .tooManyLookups => "Too Many DNS Lookups"
  | .missingAll => "Missing All Mechanism"
  | .unknownModifier => "Unknown Modifier"
  | .multipleRecords => "Multiple SPF Records"
  | .includeLoop => "SPF Include Loop"
  | .permissiveAll => "Permissive All Mechanism"
  | .neutralAll => "Neutral All Mechanism"
  | .redirectWithAll => "Redirect Ignored"
  | .termsAfterAll => "Terms After All"
  | .ptrMechanism => "PTR Mechanism Used"
  | .approachingLookupLimit => "Approaching DNS Lookup Limit"
  | .includeMissingRecord => "Included Domain Has No SPF Record"
  | .includeInvalidRecord => "Invalid Included SPF Record"
  | .lookupFailed => "DNS Lookup Failed"
  | .resolutionTimeout => "SPF Resolution Timed Out"
  | .missingRecord => "Missing SPF Record"

/-- The description of a kind. -/
def description : IssueKind → String
  | .missingVersion =>
    "An SPF record must begin with the version tag 'v=spf1' followed by a space. Receivers " ++
    "ignore TXT records that do not."
  | .syntaxError =>
    "The record contains a term that does not follow the SPF grammar (RFC 7208, Section 12). " ++
    "Receivers return a permanent error for the whole record."
  | .tooManyLookups =>
    "The include, a, mx, ptr and exists mechanisms and the redirect modifier cause DNS " ++
    "queries. SPF evaluation is limited to 10 of them (RFC 7208, Section 4.6.4); beyond that " ++
    "the result is a permanent error."
  | .missingAll =>
    "Without an 'all' mechanism, mail from unlisted sources gets a neutral result and is " ++
    "rarely rejected."
  | .unknownModifier =>
    "Receivers ignore modifiers they do not recognize, so these terms have no effect."
  | .multipleRecords =>
    "A domain must not publish more than one SPF record (RFC 7208, Section 3.2). Receivers " ++
    "return a permanent error when they find several."
  | .includeLoop =>
    "An include or redirect chain leads back to a domain that is already being evaluated, so " ++
    "evaluation can never finish."
  | .permissiveAll =>
    "'+all' authorizes every server on the internet to send mail for the domain."
  | .neutralAll =>
    "'?all' makes no assertion about unlisted senders, which offers little protection " ++
    "against spoofing."
  | .redirectWithAll =>
    "When a record contains an 'all' mechanism its redirect modifier is never used (RFC " ++
    "7208, Section 6.1)."
  | .termsAfterAll =>
    "Mechanisms after 'all' will never be tested and are ignored by receivers (RFC 7208, " ++
    "Section 5.1)."
  | .ptrMechanism =>
    "The ptr mechanism is slow, unreliable and places a large burden on the .arpa name " ++
    "servers (RFC 7208, Section 5.5). Some receivers skip it."
  | .approachingLookupLimit =>
    "The record is close to the limit of 10 DNS lookups. Any change by an included provider " ++
    "may push it over."
  | .includeMissingRecord =>
    "An include or redirect points at a domain that publishes no SPF record, which is a " ++
    "permanent error (RFC 7208, Section 5.2)."
  | .includeInvalidRecord =>
    "An included or redirected record contains a syntax error, which makes the whole " ++
    "evaluation fail."
  | .lookupFailed =>
    "A DNS query for an included or redirected domain failed. Receivers treat this as a " ++
    "temporary error."
  | .resolutionTimeout =>
    "The SPF chain could not be fully resolved within the time allowed. The results cover " ++
    "only the part of the chain that was resolved."
  | .missingRecord =>
    "The domain does not publish an SPF record, so receivers cannot tell which servers may " ++
    "send mail on its behalf."

/-- The recommendation of a kind. -/
def recommendation : IssueKind → String
  | .missingVersion =>
    "Start the record with 'v=spf1', for example: v=spf1 include:_spf.example.com -all"
  | .syntaxError =>
    "Correct the malformed term so that every mechanism and modifier is well formed."
  | .tooManyLookups =>
    "Reduce DNS lookups by removing unused includes, replacing a and mx with ip4/ip6 ranges, " ++
    "or flattening includes into explicit addresses."
  | .missingAll =>
    "End the record with '-all' (hard fail) or '~all' (soft fail)."
  | .unknownModifier =>
    "Remove the unrecognized modifiers or check them for typos."
  | .multipleRecords =>
    "Merge the records into a single 'v=spf1' TXT record and delete the others."
  | .includeLoop =>
    "Remove the circular include or redirect reference."
  | .permissiveAll =>
    "Replace '+all' with '-all' or '~all'."
  | .neutralAll =>
    "Upgrade to '~all' or '-all' for better security."
  | .redirectWithAll =>
    "Remove the 'all' mechanism when using 'redirect', or remove the redirect."
  | .termsAfterAll =>
    "Move these mechanisms before 'all' or remove them."
  | .ptrMechanism =>
    "Replace ptr with ip4, ip6, a or include mechanisms."
  | .approachingLookupLimit =>
    "Consider optimizing the SPF record to reduce DNS lookups."
  | .includeMissingRecord =>
    "Remove the reference or ask the provider for the correct include domain."
  | .includeInvalidRecord =>
    "Contact the owner of the included domain or stop including it."
  | .lookupFailed =>
    "Check that the referenced domain's name servers answer reliably."
  | .resolutionTimeout =>
    "Check the responsiveness of the name servers in the include chain and retry."
  | .missingRecord =>
    "Publish an SPF record listing your sending sources. If the domain sends no mail, " ++
    "publish: v=spf1 -all"

/-- Every kind is in the catalogue. -/
theorem mem_all (k : IssueKind) : k ∈ all := by
  cases k <;> decide

/-- Kinds have different recommendations. -/
theorem recommendation_inj {k k' : IssueKind} :
    k.recommendation = k'.recommendation ↔ k = k' := by
  have hall : ∀ k ∈ all, ∀ k' ∈ all, k.recommendation = k'.recommendation → k = k' := by
    decide +kernel
  exact ⟨hall k (mem_all k) k' (mem_all k'), congrArg recommendation⟩

end IssueKind

/-- An issue: its kind, and what it is about. -/
structure Issue where
  /-- The kind of the issue. -/
  kind : IssueKind
  /-- What the issue is about, where its title tells. -/
  detail : Text
  deriving DecidableEq, Repr

namespace Issue

variable (i : Issue)

/-- The title of an issue, with its detail. -/
def message : Text :=
  if i.kind.hasDetail then i.kind.title ++ ": " ++ i.detail else i.kind.title

/-- Whether an issue makes the record unusable. -/
def isError : Bool := i.kind.severity = .error

end Issue

end SenderPolicy
