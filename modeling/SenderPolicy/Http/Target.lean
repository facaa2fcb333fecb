import SenderPolicy.Text.Basic

/-!
# Targets of requests

A target names what a request asks for: a scheme and an authority, which are mostly left out, and
a path. A query and a fragment after the path are cut off. Tabulators and ends of lines are passed
over.
-/

namespace SenderPolicy.Http

/-- A target of a request. -/
structure Target where
  /-- The scheme in small letters; empty if it is left out. -/
  scheme : Text
  /-- The authority; empty if it is left out. -/
  authority : Text
  /-- The path as it is written. -/
  path : Text
  deriving DecidableEq, Repr

namespace Target

/-- Whether a character can stand in a scheme. -/
def isSchemeChar (c : CodePoint) : Bool := c.isAlphanum || c = '+' || c = '-' || c = '.'

/-- The scheme at the front of a target, without its colon, and the rest. -/
def cutScheme (s : Text) : Text × Text :=
  let name := s.takeWhile isSchemeChar
  match s.dropWhile isSchemeChar with
  | ':' :: rest => if name.isEmpty then ([], s) else (Text.toLowerAscii name, rest)
  | _ => ([], s)

/-- Whether a character ends an authority. -/
def endsAuthority (c : CodePoint) : Bool := c = '/' || c = '?' || c = '#'

/-- The authority at the front of a target, without the slashes before it, and the rest. -/
def cutAuthority : Text → Text × Text
  | '/' :: '/' :: rest => Text.cut endsAuthority rest
  | s => ([], s)

/-- Reads a target. -/
def read (s : Text) : Target :=
  let (scheme, s) := cutScheme (s.filter fun c => c ≠ '\t' && c ≠ '\r' && c ≠ '\n')
  let (authority, s) := cutAuthority s
  ⟨scheme, authority, s.takeWhile fun c => c ≠ '?' && c ≠ '#'⟩

/-- A target that begins with one slash is a path and no more. -/
theorem read_path {c : CodePoint} {s : Text} (hc : c ≠ '/')
    (h : ∀ d ∈ .char '/' :: c :: s, d ≠ '\t' ∧ d ≠ '\r' ∧ d ≠ '\n' ∧ d ≠ '?' ∧ d ≠ '#') :
    read (.char '/' :: c :: s) = ⟨[], [], .char '/' :: c :: s⟩ := by
  have hf : (CodePoint.char '/' :: c :: s).filter
      (fun c : CodePoint => c ≠ '\t' && c ≠ '\r' && c ≠ '\n') = .char '/' :: c :: s := by
    rw [List.filter_eq_self]
    intro d hd
    obtain ⟨h1, h2, h3, -, -⟩ := h d hd
    simp [h1, h2, h3]
  have ht : (CodePoint.char '/' :: c :: s).takeWhile
      (fun c : CodePoint => c ≠ '?' && c ≠ '#') = .char '/' :: c :: s := by
    rw [← List.append_nil (.char '/' :: c :: s), List.takeWhile_append_of_pos]
    · simp
    · intro d hd
      obtain ⟨-, -, -, h4, h5⟩ := h d hd
      simp [h4, h5]
  have ha : cutAuthority (.char '/' :: c :: s) = ([], .char '/' :: c :: s) := by
    unfold cutAuthority
    split
    · rename_i heq
      injection heq with _ heq
      injection heq with heq _
      exact absurd heq hc
    · rfl
  have hs : cutScheme (.char '/' :: c :: s) = ([], .char '/' :: c :: s) := rfl
  unfold read
  rw [hf, hs]
  simp only [ha, ht]

end Target

end SenderPolicy.Http
