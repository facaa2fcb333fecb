import SenderPolicy.Text.Lowercase

/-!
# The terms of an SPF record

A record is the version tag followed by terms. A term is a mechanism with a qualifier, the
redirect modifier, or another modifier, whose text is kept whole. This module holds the terms and
what is read off them alone: the cost in DNS lookups and the name that a term goes by.
-/

namespace SenderPolicy

/-- The result that a matching mechanism gives. -/
inductive Qualifier
  /-- The sender is authorised. -/
  | pass
  /-- The sender is not authorised. -/
  | fail
  /-- The sender is probably not authorised. -/
  | softFail
  /-- Nothing is said about the sender. -/
  | neutral
  deriving DecidableEq, Repr

/-- The character that stands for a qualifier in front of a mechanism. -/
def Qualifier.symbol : Qualifier → CodePoint
  | .pass => '+'
  | .fail => '-'
  | .softFail => '~'
  | .neutral => '?'

/-- The qualifier of a character. -/
def Qualifier.ofSymbol? (c : CodePoint) : Option Qualifier :=
  if c = '+' then some .pass
  else if c = '-' then some .fail
  else if c = '~' then some .softFail
  else if c = '?' then some .neutral
  else none

/-- A qualifier is read from the character that stands for it. -/
theorem Qualifier.ofSymbol?_symbol (q : Qualifier) : Qualifier.ofSymbol? q.symbol = some q := by
  cases q <;> rfl

/-- No character but its symbol stands for a qualifier. -/
theorem Qualifier.symbol_of_ofSymbol? {c : CodePoint} {q : Qualifier}
    (h : Qualifier.ofSymbol? c = some q) : q.symbol = c := by
  unfold Qualifier.ofSymbol? at h
  split at h
  · obtain rfl := Option.some.inj h; simp_all [Qualifier.symbol]
  · split at h
    · obtain rfl := Option.some.inj h; simp_all [Qualifier.symbol]
    · split at h
      · obtain rfl := Option.some.inj h; simp_all [Qualifier.symbol]
      · split at h
        · obtain rfl := Option.some.inj h; simp_all [Qualifier.symbol]
        · cases h

/-- The keywords that terms begin with. -/
inductive Keyword
  /-- The mechanism `all`. -/
  | all
  /-- The mechanism `include`. -/
  | includes
  /-- The mechanism `a`. -/
  | a
  /-- The mechanism `mx`. -/
  | mx
  /-- The mechanism `ptr`. -/
  | ptr
  /-- The mechanism `exists`. -/
  | existence
  /-- The mechanism `ip4`. -/
  | ip4
  /-- The mechanism `ip6`. -/
  | ip6
  /-- The modifier `redirect`. -/
  | redirect
  deriving DecidableEq, Repr

/-- A keyword as it is written. -/
def Keyword.text : Keyword → Text
  | .all => "all"
  | .includes => "include"
  | .a => "a"
  | .mx => "mx"
  | .ptr => "ptr"
  | .existence => "exists"
  | .ip4 => "ip4"
  | .ip6 => "ip6"
  | .redirect => "redirect"

/-- The keyword of a text in small letters. -/
def Keyword.ofText? (s : Text) : Option Keyword :=
  [all, includes, a, mx, ptr, existence, ip4, ip6, redirect].find? (·.text = s)

/-- A keyword is read from the text that it is written as. -/
theorem Keyword.ofText?_text (k : Keyword) : ofText? k.text = some k := by
  cases k <;> decide

/-- No text but its own stands for a keyword. -/
theorem Keyword.text_of_ofText? {s : Text} {k : Keyword} (h : ofText? s = some k) :
    k.text = s := by
  simpa using List.find?_some h

/-- A mechanism with the text that follows its keyword. -/
inductive Mechanism
  /-- Matches every sender. -/
  | all
  /-- Matches what the record of another domain passes. -/
  | includes (domain : Text)
  /-- Matches the addresses of a host. The target is empty, a host, or a host left out and a CIDR
  length that starts with a slash; a length may also follow the host. -/
  | a (target : Text)
  /-- Matches the mail exchangers of a domain, with a target like that of `a`. -/
  | mx (target : Text)
  /-- Matches by reverse lookup; the domain may be empty. -/
  | ptr (domain : Text)
  /-- Matches if a name has an address. -/
  | existence (domain : Text)
  /-- Matches an IPv4 network. -/
  | ip4 (network : Text)
  /-- Matches an IPv6 network. -/
  | ip6 (network : Text)
  deriving DecidableEq, Repr

/-- One term of a record. -/
inductive Term
  /-- The version tag. -/
  | version
  /-- A mechanism and the result that it gives. -/
  | mechanism (qualifier : Qualifier) (mechanism : Mechanism)
  /-- Use the record of another domain instead. -/
  | redirect (domain : Text)
  /-- Any other modifier, as it is written: a name, an equals sign and a value. -/
  | modifier (text : Text)
  deriving DecidableEq, Repr

namespace Mechanism

/-- The keyword of a mechanism. -/
def keyword : Mechanism → Keyword
  | .all => .all
  | .includes _ => .includes
  | .a _ => .a
  | .mx _ => .mx
  | .ptr _ => .ptr
  | .existence _ => .existence
  | .ip4 _ => .ip4
  | .ip6 _ => .ip6

/-- The text that follows the keyword, without the colon. -/
def value : Mechanism → Text
  | .all => []
  | .includes s | .a s | .mx s | .ptr s | .existence s | .ip4 s | .ip6 s => s

/-- The DNS lookups that a mechanism is charged. -/
def lookupCost : Mechanism → Nat
  | .includes _ | .a _ | .mx _ | .ptr _ | .existence _ => 1
  | .all | .ip4 _ | .ip6 _ => 0

end Mechanism

/-- The text of the version tag. -/
def versionTag : Text := "v=spf1"

namespace Term

/-- The word for the kind of a term. -/
def kind : Term → Text
  | .version => "version"
  | .mechanism _ m => m.keyword.text
  | .redirect _ => Keyword.redirect.text
  | .modifier _ => "unknown-modifier"

/-- The qualifier of a term, which only mechanisms can choose. -/
def qualifier : Term → Qualifier
  | .mechanism q _ => q
  | _ => .pass

/-- The value of a term: what a mechanism or redirect says, the number of the version, the whole
text of another modifier. -/
def value : Term → Text
  | .version => versionTag.drop 2
  | .mechanism _ m => m.value
  | .redirect s => s
  | .modifier s => s

/-- Whether a term is a mechanism. -/
def isMechanism : Term → Bool
  | .mechanism _ _ => true
  | _ => false

/-- The DNS lookups that a term is charged where it stands. -/
def lookupCost : Term → Nat
  | .mechanism _ m => m.lookupCost
  | _ => 0

/-- The DNS lookups that a term is charged when it is evaluated: a redirect is charged when it is
followed. -/
def charge : Term → Nat
  | .mechanism _ m => m.lookupCost
  | .redirect _ => 1
  | _ => 0

/-- The name of a modifier other than redirect, in small letters. -/
def modifierName? : Term → Option Text
  | .modifier s => some (Text.lower (Text.before '=' s))
  | _ => none

/-- The name under which a term is counted as a modifier. -/
def countedName? : Term → Option Text
  | .redirect _ => some Keyword.redirect.text
  | t => t.modifierName?

/-- No term is charged more than one lookup. -/
theorem charge_le_one (t : Term) : t.charge ≤ 1 := by
  rcases t with _ | ⟨_, _ | _ | _ | _ | _ | _ | _ | _⟩ | _ | _ <;>
    simp [charge, Mechanism.lookupCost]

end Term

/-- How a domain comes to be evaluated. -/
inductive Link
  /-- By an include mechanism. -/
  | includes
  /-- By the redirect modifier. -/
  | redirect
  deriving DecidableEq, Repr

/-- The word for a link. -/
def Link.name : Link → String
  | .includes => "include"
  | .redirect => "redirect"

/-- The domain whose record a term asks for, and how. -/
def Term.link? : Term → Option (Link × Text)
  | .mechanism _ (.includes domain) => some (.includes, domain)
  | .redirect domain => some (.redirect, domain)
  | _ => none

end SenderPolicy
