import SenderPolicy.Text.Basic

/-!
# Lists in headers

The value of a header can be a list of items with commas between them. A comma between quotes does
not separate items, and a backslash between quotes takes the next character as it is. An item that
is one quoted text stands for the characters between its quotes.
-/

namespace SenderPolicy.Http

/-- Whether a character may stand around an item or a value. -/
def isOuterBlank (c : CodePoint) : Bool := c = ' ' || c = '\t'

/-- The text without the padding around it. -/
def trimPadding (s : Text) : Text := Text.trimWhile isOuterBlank s

/-- Puts characters in front of the first item of a list. -/
def ontoFirst (cs : Text) : List Text → List Text
  | [] => [cs]
  | item :: items => (cs ++ item) :: items

/-- The items of a list as they are written, unless a quote is not closed. -/
def rawItems? : (quoted : Bool) → Text → Option (List Text)
  | quoted, [] => if quoted then none else some [[]]
  | true, '\\' :: c :: rest => (rawItems? true rest).map (ontoFirst ['\\', c])
  | false, ',' :: rest => (rawItems? false rest).map ([] :: ·)
  | quoted, c :: rest => (rawItems? (quoted != (c = '"')) rest).map (ontoFirst [c])

/-- The characters of a quoted text after its opening quote, if the quote that closes it is the
last character. -/
def unquoted? : Text → Option Text
  | [] => none
  | ['"'] => some []
  | '"' :: _ => none
  | '\\' :: c :: rest => (unquoted? rest).map (c :: ·)
  | c :: rest => (unquoted? rest).map (c :: ·)

/-- What an item stands for. -/
def itemValue : Text → Text
  | '"' :: rest => (unquoted? rest).getD ('"' :: rest)
  | item => item

/-- The items of a list. Nothing between two commas is no item, and a list with a quote that is
not closed has none. -/
def listItems (s : Text) : List Text :=
  ((((rawItems? false s).getD []).map trimPadding).filter (!·.isEmpty)).map itemValue

end SenderPolicy.Http
