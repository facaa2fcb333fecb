import SenderPolicy.SettingFault
import SenderPolicy.Term.Reader

/-!
# SPF records

A text is an SPF record if it is the version tag, or starts with the tag and a space. A record is
read token by token. A token that is not well formed leaves no term but a diagnostic; the modifiers
redirect and exp may each stand once, and the second one leaves a diagnostic beside its term. The
first diagnostic is the record's own.
-/

namespace SenderPolicy

/-- Whether a text is an SPF record, which it is by its first seven characters. -/
def isSpfRecord (text : Text) : Bool :=
  let head := Text.lower (text.take (versionTag.length + 1))
  head = versionTag || head = versionTag ++ " "

/-- The SPF records among the texts of a domain, in their order. -/
def selectSpfRecords (texts : List Text) : List Text := texts.filter isSpfRecord

/-- What is wrong with a record. -/
inductive Diagnostic
  /-- The text is no SPF record. -/
  | noVersion
  /-- A token is not well formed. -/
  | malformed (token : Text) (malformation : Malformation)
  /-- A modifier that may stand once stands a second time. -/
  | repeated (name : Text)
  deriving DecidableEq, Repr

/-- The wording of a diagnostic. -/
def Diagnostic.message : Diagnostic → Text
  | .noVersion => "Record does not begin with " ++ versionTag
  | .malformed token m => m.message token
  | .repeated name => "The '" ++ name ++ "' modifier appears more than once"

/-- A record that has been read. -/
structure Record where
  /-- The text of the record. -/
  raw : Text
  /-- The domain that the record is published by, or meant for. -/
  domain : Text
  /-- The terms that are well formed, in their order. -/
  terms : List Term
  /-- The first thing that is wrong with the record. -/
  diagnostic : Option Diagnostic
  deriving Repr

/-- Why a record cannot be read at all. -/
inductive Abort
  /-- A token is empty. -/
  | emptyToken
  /-- A CIDR length has more digits than can be read. -/
  | oversized (digits : Nat)
  /-- The source of TXT records failed in a way that is no answer. -/
  | source (message : Text)
  /-- A setting that the evaluation needs is of no use. -/
  | setting (fault : SettingFault)
  deriving DecidableEq, Repr

/-- The wording of an abort. -/
def Abort.message : Abort → Text
  | .emptyToken => "string index out of range"
  | .oversized digits => tooManyDigitsMessage digits
  | .source message => message
  | .setting fault => fault.message

/-- The modifiers that may stand only once. -/
def uniqueModifiers : List Text := ["redirect", "exp"]

/-- The terms and the diagnostics of a list of tokens. -/
structure Reading where
  /-- The terms that are well formed, in their order. -/
  terms : List Term
  /-- All diagnostics, in the order of the tokens that they are about. -/
  diagnostics : List Diagnostic
  deriving Repr

namespace Reading

/-- The diagnostic of a term that is the second of its name, after the names `seen`. -/
def repetition (seen : List Text) (t : Term) : List Diagnostic :=
  match t.countedName? with
  | some name =>
    if uniqueModifiers.contains name && seen.count name = 1 then [.repeated name] else []
  | none => []

/-- Reads tokens after terms with the modifier names `seen`. -/
def ofTokens (seen : List Text) : List Text → Except Abort Reading
  | [] => .ok ⟨[], []⟩
  | token :: tokens =>
    match Term.read token with
    | .error .empty => .error .emptyToken
    | .error (.oversized digits) => .error (.oversized digits)
    | .error (.malformed m) =>
      (ofTokens seen tokens).map fun r => ⟨r.terms, .malformed token m :: r.diagnostics⟩
    | .ok t =>
      (ofTokens (t.countedName?.toList ++ seen) tokens).map fun r =>
        ⟨t :: r.terms, repetition seen t ++ r.diagnostics⟩

end Reading

namespace Record

/-- The tokens of a record: the words after the version tag. -/
def tokens (raw : Text) : List Text := Text.words (raw.drop versionTag.length)

/-- Reads the text of a record for a domain. -/
def read (raw domain : Text) : Except Abort Record :=
  if isSpfRecord raw then
    (Reading.ofTokens [] (tokens raw)).map fun r =>
      ⟨raw, domain, .version :: r.terms, r.diagnostics.head?⟩
  else .ok ⟨raw, domain, [], some .noVersion⟩

variable (r : Record)

/-- Whether the text is an SPF record. -/
def hasVersion : Bool := r.diagnostic ≠ some .noVersion

/-- Whether nothing is wrong with the record. -/
def isWellFormed : Bool := r.diagnostic.isNone

/-- The qualifiers of the `all` mechanisms, in their order. -/
def allQualifiers : List Qualifier :=
  r.terms.filterMap fun
    | .mechanism q .all => some q
    | _ => none

/-- The qualifier of the last `all` mechanism, which decides the default result. -/
def default? : Option Qualifier := r.allQualifiers.getLast?

/-- The domain of the first redirect modifier. -/
def redirect? : Option Text :=
  r.terms.findSome? fun
    | .redirect domain => some domain
    | _ => none

/-- The names of modifiers that some extension gives a meaning. -/
def recognizedModifiers : List Text := ["exp", "ra", "rp", "rr"]

/-- The texts of the modifiers whose names are not recognized. -/
def unknownModifiers : List Text :=
  r.terms.filterMap fun t =>
    match t, t.modifierName? with
    | .modifier text, some name => if recognizedModifiers.contains name then none else some text
    | _, _ => none

/-- The mechanisms after the first `all`, which are never reached. -/
def termsAfterAll : List Term :=
  ((r.terms.dropWhile fun
    | .mechanism _ .all => false
    | _ => true).drop 1).filter Term.isMechanism

/-- Whether a `ptr` mechanism is used. -/
def usesPtr : Bool :=
  r.terms.any fun
    | .mechanism _ (.ptr _) => true
    | _ => false

end Record

end SenderPolicy
