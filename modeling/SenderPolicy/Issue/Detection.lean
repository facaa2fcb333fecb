import SenderPolicy.Chain.Basic
import SenderPolicy.Issue.Catalog
import SenderPolicy.Term.Printer

/-!
# Finding issues

`Chain.issues` matches what an expansion found against the catalogue, in the order of the
catalogue. A domain without a record has one issue and no other. Every loop and every domain
without a usable record is reported once, at the place where it was first met: `firstOf` keeps the
order (`firstOf_sublist`) and loses no key (`exists_mem_firstOf`).
-/

namespace SenderPolicy

/-- The issue of a kind without a detail, if a condition holds. -/
def issueIf (condition : Bool) (kind : IssueKind) : List Issue :=
  if condition then [⟨kind, ""⟩] else []

/-- The items of a list whose keys differ from those of all items before them. -/
def firstOf {α β : Type} [BEq β] (key : α → β) : (seen : List β) → List α → List α
  | _, [] => []
  | seen, x :: xs =>
    if seen.contains (key x) then firstOf key seen xs
    else x :: firstOf key (key x :: seen) xs

section FirstOf

variable {α β : Type} [BEq β] (key : α → β)

/-- The items kept are in the order of the list. -/
theorem firstOf_sublist (seen : List β) (xs : List α) : (firstOf key seen xs).Sublist xs := by
  induction xs generalizing seen with
  | nil => exact List.Sublist.refl _
  | cons x xs ih =>
    unfold firstOf
    split
    · exact (ih _).trans (List.sublist_cons_self x xs)
    · exact (ih _).cons_cons x

variable [LawfulBEq β]

/-- Every key that has not been seen before is the key of an item that is kept. -/
theorem exists_mem_firstOf {seen : List β} {xs : List α} {x : α} (hx : x ∈ xs)
    (h : key x ∉ seen) : ∃ y ∈ firstOf key seen xs, key y = key x := by
  induction xs generalizing seen with
  | nil => cases hx
  | cons y ys ih =>
    unfold firstOf
    split
    · rename_i hy
      rcases List.mem_cons.1 hx with rfl | hx
      · exact absurd (by simpa using hy) h
      · exact ih hx h
    · rcases List.mem_cons.1 hx with rfl | hx
      · exact ⟨x, List.mem_cons_self, rfl⟩
      · by_cases hk : key x = key y
        · exact ⟨y, List.mem_cons_self, hk.symm⟩
        · obtain ⟨w, hw, e⟩ := @ih (key y :: seen) hx (by simp [hk, h])
          exact ⟨w, List.mem_cons_of_mem _ hw, e⟩

end FirstOf

namespace Record

variable (r : Record)

/-- The issue of a record that is not well formed. -/
def formIssues : List Issue :=
  match r.diagnostic with
  | none => []
  | some .noVersion => [⟨.missingVersion, ""⟩]
  | some d => [⟨.syntaxError, d.message⟩]

/-- The issue of a record without an `all` mechanism. -/
def missingAllIssues : List Issue :=
  issueIf (r.hasVersion && r.default?.isNone) .missingAll

/-- The issue of modifiers with unknown names. -/
def unknownModifierIssues : List Issue :=
  if r.unknownModifiers.isEmpty then []
  else [⟨.unknownModifier, Text.joined ", " r.unknownModifiers⟩]

/-- The issue of an `all` mechanism that leaves other senders unmarked. -/
def defaultIssues : List Issue :=
  issueIf (r.default? = some .pass) .permissiveAll ++
    issueIf (r.default? = some .neutral) .neutralAll

/-- The issue of a redirect beside an `all` mechanism. -/
def redirectIssues : List Issue :=
  issueIf (r.default?.isSome && r.redirect?.isSome) .redirectWithAll

/-- The issue of mechanisms after the first `all`. -/
def afterAllIssues : List Issue :=
  if r.termsAfterAll.isEmpty then []
  else [⟨.termsAfterAll, Text.joined " " (r.termsAfterAll.map Term.render)⟩]

/-- The issue of a `ptr` mechanism. -/
def ptrIssues : List Issue := issueIf r.usesPtr .ptrMechanism

end Record

/-- The kind of issue of a failure. -/
def FailureKind.issueKind : FailureKind → IssueKind
  | .missing => .includeMissingRecord
  | .invalid => .includeInvalidRecord
  | .lookupFailed => .lookupFailed

/-- The issue of a domain without a usable record. -/
def Failure.issue (f : Failure) : Issue :=
  ⟨f.kind.issueKind,
    match f.kind with
    | .invalid => f.domain ++ " (" ++ f.message ++ ")"
    | _ => f.domain⟩

namespace Chain

variable (c : Chain) (limit : LookupLimit)

/-- Whether more lookups are charged than allowed. -/
def exceeds : Bool := c.limitExceeded || limit.isExceededBy c.lookups

/-- The issue of more lookups than allowed. -/
def overLimitIssues : List Issue := issueIf (c.exceeds limit) .tooManyLookups

/-- The issue of several records of one domain. -/
def multipleIssues : List Issue := issueIf (1 < c.spfRecords.length) .multipleRecords

/-- The issues of references that lead back, one for each source and target. -/
def loopIssues : List Issue :=
  (firstOf id [] c.cycles).map fun (source, target) =>
    ⟨.includeLoop, source ++ " -> " ++ target⟩

/-- The issue of as many lookups as allowed, or nearly as many. -/
def nearLimitIssues : List Issue :=
  if !c.limitExceeded && limit.isNear c.lookups then
    [⟨.approachingLookupLimit, toString c.lookups ++ " of " ++ limit.text⟩]
  else []

/-- The issues of domains without a usable record, one for each kind and domain. -/
def failureIssues : List Issue :=
  (firstOf (fun f : Failure => (f.kind, f.domain)) [] c.failures).map Failure.issue

/-- The issue of the allowed time being used up. -/
def timeoutIssues : List Issue :=
  if c.timedOut then
    [⟨.resolutionTimeout, toString c.unresolved.length ++ " terms not evaluated"⟩]
  else []

/-- The issues of a chain whose domain has the record `r`. -/
def recordIssues (r : Record) : List Issue :=
  r.formIssues ++ c.overLimitIssues limit ++ r.missingAllIssues ++ r.unknownModifierIssues ++
    c.multipleIssues ++ c.loopIssues ++ r.defaultIssues ++ r.redirectIssues ++ r.afterAllIssues ++
    r.ptrIssues ++ c.nearLimitIssues limit ++ c.failureIssues ++ c.timeoutIssues

/-- The issues of a chain, given the number of lookups that a record may cause. -/
def issues : List Issue :=
  match c.root with
  | none => [⟨.missingRecord, ""⟩]
  | some r => c.recordIssues limit r

end Chain

end SenderPolicy
