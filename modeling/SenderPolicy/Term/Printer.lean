import SenderPolicy.Term.Basic

/-!
# Writing terms

A term is written in its canonical spelling: the keyword in small letters, and no sign for the
qualifier that every mechanism has by default. A value follows its keyword after a colon, unless
it is a CIDR length, which brings its own slash.
-/

namespace SenderPolicy

/-- The sign of a qualifier, which is left out for `pass`. -/
def Qualifier.sign : Qualifier → Text
  | .pass => []
  | q => [q.symbol]

/-- A value after its keyword, which is left out if it is empty. -/
def afterColon (value : Text) : Text := if value.isEmpty then [] else ':' :: value

/-- The target of an address mechanism after its keyword: a CIDR length follows without a
colon. -/
def afterKeyword (target : Text) : Text :=
  if target.head? = some '/' then target else afterColon target

/-- A mechanism without its qualifier. -/
def Mechanism.render (m : Mechanism) : Text :=
  m.keyword.text ++ match m with
    | .a target | .mx target => afterKeyword target
    | _ => afterColon m.value

/-- The canonical text of a term. -/
def Term.render : Term → Text
  | .version => versionTag
  | .mechanism q m => q.sign ++ m.render
  | .redirect domain => "redirect=" ++ domain
  | .modifier text => text

end SenderPolicy
