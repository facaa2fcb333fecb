import SenderPolicy.Text.Letter
import SenderPolicy.Text.Lowercase

/-!
# Domain names

A domain is compared and looked up in its normal form: without blanks around it, without one dot
at its end, in small letters. `isHostname` says which texts a request may name: two or more labels
of letters, digits and inner hyphens, the last of at least two characters.
-/

namespace SenderPolicy

/-- The normal form of a domain. -/
def normalizeDomain (s : Text) : Text := Text.lower (Text.dropFinal '.' (Text.trim s))

/-- The greatest length of a hostname. -/
def maxHostname : Nat := 253

/-- The greatest length of a label. -/
def maxLabel : Nat := 63

/-- A label: letters, digits and hyphens, with no hyphen at either end. -/
def isLabel (s : Text) : Bool :=
  s.length ≤ maxLabel && s.head?.any isLatinAlnum && s.getLast?.any isLatinAlnum &&
    s.all fun c => isLatinAlnum c || c = '-'

/-- Two or more labels of which the last has at least two characters. -/
def areHostLabels : List Text → Bool
  | [] => false
  | [_] => false
  | [first, last] => isLabel first && isLabel last && 2 ≤ last.length
  | first :: rest => isLabel first && areHostLabels rest

/-- Whether a text names a host in its normal form. A line feed at the very end is passed over. -/
def isHostname (s : Text) : Bool :=
  let name := normalizeDomain s
  name.length ≤ maxHostname && areHostLabels (Text.parts '.' (Text.dropFinal '\n' name))

/-- The normal form of a text that names a host. -/
def hostname? (s : Text) : Option Text := if isHostname s then some (normalizeDomain s) else none

end SenderPolicy
