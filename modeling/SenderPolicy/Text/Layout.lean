import SenderPolicy.Text.Basic

/-!
# Laying out text

Words are set in lines of a limited width, and tables in columns. A word that is wider than a line
stands on a line of its own.
-/

namespace SenderPolicy.Text

/-- A number of spaces. -/
def spaces (n : Nat) : Text := List.replicate n ' '

/-- A text with spaces after it, so that it has at least a width. -/
def padded (width : Nat) (s : Text) : Text := s ++ spaces (width - s.length)

/-- Sets words in lines of a width, after the line that has been begun. -/
def setLines (width : Nat) : (line : Text) → List Text → List Text
  | line, [] => [line]
  | line, word :: rest =>
    if line.length + 1 + word.length ≤ width then
      setLines width (line ++ (' ' : CodePoint) :: word) rest
    else line :: setLines width word rest

/-- The lines of a paragraph, none wider than a width if no word is. -/
def wrapped (width : Nat) (s : Text) : List Text :=
  match words s with
  | [] => []
  | word :: rest => setLines width word rest

/-- The widths of the columns of a table. -/
def columnWidths (rows : List (List Text)) : List Nat :=
  (List.range ((rows.map List.length).max?.getD 0)).map fun i =>
    ((rows.map fun row => (row.getD i []).length).max?).getD 0

/-- The rows of a table with a head and a line of hyphens below it, in columns with two spaces
between them. -/
def table (head : List Text) (rows : List (List Text)) : List Text :=
  let widths := columnWidths (head :: rows)
  let rule := widths.map fun n => (List.replicate n '-' : Text)
  (head :: rule :: rows).map fun row =>
    (spaces 2).intercalate (List.zipWith padded widths row)

end SenderPolicy.Text
