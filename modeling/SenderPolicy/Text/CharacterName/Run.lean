/-!
# Runs of names

The names of characters are kept in runs. A run tells the names of consecutive code points, one
after another; each name begins with a small letter, which tells how many words of the name before
it are kept: `a` for none, `b` for one, and so on. A name is its words, as a list.
-/

namespace SenderPolicy

/-- Names of consecutive code points. -/
structure NameRun where
  /-- The first code point. -/
  first : Nat
  /-- The names, in several pieces. -/
  pieces : List String

/-- The name of a character, as its words. -/
abbrev NameWords := List (List Char)

namespace NameRun

/-- The words of a name that is written as one text. -/
def wordsOf (s : List Char) : NameWords := s.splitOn ' '

/-- What is written for each name: the number of words that are kept, and the words after them. -/
def entries (r : NameRun) : List (Nat × NameWords) :=
  let written := r.pieces.flatMap String.toList
  (written.splitBy fun _ c => !c.isLower).map fun
    | kept :: words => (kept.toNat - 'a'.toNat, wordsOf words)
    | [] => (0, [])

/-- The names that entries stand for, after another name. -/
def namesAfter : NameWords → List (Nat × NameWords) → List NameWords
  | _, [] => []
  | last, (kept, words) :: rest =>
    let name := last.take kept ++ words
    name :: namesAfter name rest

/-- The names of a run. -/
def names (r : NameRun) : List NameWords := namesAfter [] r.entries

/-- The code point of a name in a run. -/
def find? (name : NameWords) (r : NameRun) : Option Nat :=
  (r.names.idxOf? name).map (r.first + ·)

end NameRun

end SenderPolicy
