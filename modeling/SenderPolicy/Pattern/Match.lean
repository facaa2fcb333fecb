import SenderPolicy.Pattern.Basic

/-!
# Matching patterns

A match is searched for by trials. A trial begins at a place of the text and either fails or ends
with everything matched; a part that can match in several ways tries what follows it after each of
them, in a fixed order, until one trial does not fail.

A trial leaves a trace whether it fails or not: the place at which the last character was asked
for, which is called the head, and the marks, the places at which groups have begun and ended.
Marks are taken back after a failed trial. Inside of the rounds of a repetition they are taken
back in full; elsewhere only those are forgotten that the trial has added. The head is not taken
back when a possessive repetition gives up a round, so what follows it begins where the failed
round has left the head.

`Pattern.matchesStart` tells whether a pattern matches at the start of a text.
-/

namespace SenderPolicy

/-- What a trial leaves behind. -/
structure Trace where
  /-- The place at which the last character was asked for, or the match ends. -/
  head : Nat
  /-- For each group in its turn, the place where it begins and the one where it ends. -/
  marks : List (Option Nat)
  deriving DecidableEq, Repr

/-- Whether a trial ended with everything matched, and its trace. -/
abbrev Trial := Bool × Trace

/-- What is tried at a place, given the trace of what was tried before. -/
abbrev Search := Nat → Trace → Trial

namespace Trace

/-- The trace with the head at a place. -/
def moved (t : Trace) (place : Nat) : Trace := { t with head := place }

/-- The trace with a mark at a place. -/
def marked (t : Trace) (index place : Nat) : Trace :=
  let known := t.marks ++ List.replicate (index + 1 - t.marks.length) none
  { t with marks := known.set index (some place) }

/-- The trace with the marks of an earlier one, or with as many of them. -/
def restored (t : Trace) (inRounds : Bool) (earlier : Trace) : Trace :=
  { t with marks := if inRounds then earlier.marks else t.marks.take earlier.marks.length }

/-- The places where a group begins and ends, if it has matched. -/
def span? (t : Trace) (group : Nat) : Option (Nat × Nat) :=
  match t.marks[2 * (group - 1)]?, t.marks[2 * (group - 1) + 1]? with
  | some (some start), some (some stop) => some (start, stop)
  | _, _ => none

/-- The places where a group begins and ends, if it has matched and does not end too early. -/
def properSpan? (t : Trace) (group : Nat) : Option (Nat × Nat) :=
  (t.span? group).filter fun (start, stop) => start ≤ stop

end Trace

/-- Why a match is of no use. -/
inductive MatchFault
  /-- A group ends before it begins. -/
  | crossedGroup
  deriving DecidableEq, Repr

/-- The wording of a fault. -/
def MatchFault.message : MatchFault → Text
  | crossedGroup =>
    "The span of capturing group is wrong, please report a bug for the re module."

/-- What the search for what follows begins with. -/
inductive Lead
  /-- One code point and no other. -/
  | literal (c : CodePoint)
  /-- A code point of a set that is asked for it as it stands. -/
  | member (s : CharTest)
  /-- Anything else. -/
  | other

/-- What follows a part: what it begins with, and the search for it. -/
structure Tail where
  /-- What it begins with. -/
  lead : Lead
  /-- The search for it. -/
  search : Search

/-- The end of a search: everything is matched, and the head stands where it ends. -/
def Tail.done : Tail := ⟨.other, fun place t => (true, t.moved place)⟩

/-- A tail of which nothing is known but the search. -/
def Tail.ofSearch (s : Search) : Tail := ⟨.other, s⟩

/-- What a test begins with. -/
def CharTest.lead (t : CharTest) : Lead :=
  match t.literal? with
  | some c => .literal c
  | none => if t.isPlainSet then .member t else .other

namespace Part

mutual

/-- What a part begins with, if it is not empty. -/
def lead? : Part → Option Lead
  | one t => some t.lead
  | scope parts => leadOf? parts
  | _ => some .other

/-- What parts begin with, if they are not empty. -/
def leadOf? : List Part → Option Lead
  | [] => none
  | p :: ps =>
    match p.lead? with
    | some l => some l
    | none => leadOf? ps

end

/-- What parts begin with that are followed by something with a lead. -/
def leadOf (parts : List Part) (l : Lead) : Lead := (leadOf? parts).getD l

/-- The test that parts consist of, if they are one test. -/
def onlyTest? : List Part → Option CharTest
  | [one t] => some t
  | [scope parts] => onlyTest? parts
  | _ => none

end Part

section Search

variable (text : Array CodePoint)

/-- Whether the character at a place passes a test. -/
def passes (test : CharTest) (place : Nat) : Bool := text[place]?.any test.holds

/-- Whether a character at a place can stand in a word. -/
def isWordAt (asciiOnly : Bool) (place : Nat) : Bool :=
  text[place]?.any (CharClass.covers asciiOnly .word)

/-- Whether a condition holds at a place. -/
def Anchor.holdsAt (place : Nat) : Anchor → Bool
  | .textStart => place = 0
  | .lineStart => place = 0 || text[place - 1]? = some '\n'
  | .textEnd => place = text.size
  | .lastLineEnd => place = text.size || (place + 1 = text.size && text[place]? = some '\n')
  | .lineEnd => place = text.size || text[place]? = some '\n'
  | .wordEnd asciiOnly complement =>
    let before := 0 < place && isWordAt text asciiOnly (place - 1)
    0 < text.size && (before != isWordAt text asciiOnly place) != complement

/-- Whether a lead is missing at a place where an alternative or a tail is to begin. -/
def Lead.isMissing (place : Nat) : Lead → Bool
  | .literal c => text[place]? ≠ some c
  | .member s => !passes text s place
  | .other => false

/-- Whether the literal that a tail begins with is missing at a place. -/
def Lead.lacksLiteral (place : Nat) : Lead → Bool
  | .literal c => text[place]? ≠ some c
  | _ => false

/-- The number of characters in a row that pass a test, from a place on and up to a limit. -/
def runLength (test : CharTest) : (limit place : Nat) → Nat
  | 0, _ => 0
  | limit + 1, place =>
    if passes text test place then runLength test limit (place + 1) + 1 else 0

/-- The number of characters in a row from a place on that pass a test, up to a number, and the
trace of counting them: the head follows a folded test. -/
def count (test : CharTest) (most : Option Nat) (place : Nat) (t : Trace) : Nat × Trace :=
  let rest := text.size - place
  let n := runLength text test (min rest (most.getD rest)) place
  (n, if test.isFolded then t.moved (place + n) else t.moved place)

/-- Tries a tail after `least + extra` characters from a place on, and then after fewer ones. -/
def tryFewer (inRounds : Bool) (k : Tail) (place least : Nat) : (extra : Nat) → Trace → Trial
  | extra, t =>
    let here := place + least + extra
    if k.lead.lacksLiteral text here then
      match extra with
      | 0 => (false, t)
      | extra + 1 => tryFewer inRounds k place least extra t
    else
      let (ok, after) := k.search here (t.moved here)
      if ok then (true, after)
      else
        let t := after.restored inRounds t
        match extra with
        | 0 => (false, t)
        | extra + 1 => tryFewer inRounds k place least extra t

/-- Tries a tail at a place, and then after one more character that passes a test, up to a number
of characters. The rest of the text bounds the characters. -/
def tryMore (test : CharTest) (inRounds : Bool) (k : Tail) :
    (fuel : Nat) → (most : Option Nat) → Search
  | 0, _, _, t => (false, t)
  | fuel + 1, most, place, t =>
    let (ok, after) := k.search place (t.moved place)
    if ok then (true, after)
    else
      let (n, t) := count text test (some 1) place (after.restored inRounds t)
      if n = 0 || most = some 0 then (false, t)
      else tryMore test inRounds k fuel (most.map (· - 1)) (place + 1) t

/-- A number of characters that pass a test, and a tail. -/
def searchRun (test : CharTest) (least : Nat) (most : Option Nat) (greed : Greed)
    (inRounds : Bool) (k : Tail) : Search := fun place t =>
  if text.size < place + least then (false, t)
  else match greed with
    | .greedy =>
      let (n, t) := count text test most place t
      if n < least then (false, t) else tryFewer text inRounds k place least (n - least) t
    | .modest =>
      let (n, t) := if least = 0 then (0, t.moved place) else count text test (some least) place t
      if n < least then (false, t)
      else
        tryMore text test inRounds k (text.size + 1) (most.map (· - least)) (place + least) t
    | .possessive =>
      let (n, t) := count text test most place t
      if n < least then (false, t) else k.search (place + n) t

/-- The characters that a group has matched, compared with those from a place on. -/
def followsGroup (rule : LetterRule) (start place : Nat) : (length : Nat) → Bool
  | 0 => true
  | length + 1 =>
    match text[start]?, text[place]? with
    | some c, some d =>
      rule.small c = rule.small d && followsGroup rule (start + 1) (place + 1) length
    | _, _ => false

/-- A bound on the rounds of a repetition beyond the least number: each of them begins at another
place than the one before. -/
def roundBound : Nat := (text.size + 2) * (text.size + 2)

/-- The rounds of a repetition and a tail, after `done` rounds of which the last one that was not
needed began at a place. A greedy repetition tries another round first and a modest one the
tail. A round that is not needed is tried only at another place than the one before. -/
def searchRounds (round : Tail → Search) (least : Nat) (most : Option Nat) (modest inRounds : Bool)
    (k : Tail) : (fuel done : Nat) → (last : Option Nat) → Search
  | 0, _, _, _, t => (false, t)
  | fuel + 1, done, last, place, t =>
    let another (last : Option Nat) (t : Trace) : Trial :=
      let onward := searchRounds round least most modest inRounds k fuel (done + 1) last
      round (.ofSearch onward) place (t.moved place)
    let admitted := most.all (done < ·) && last ≠ some place
    if done < least then
      let (ok, after) := another last t
      if ok then (true, after) else (false, after.moved place)
    else if modest then
      let (ok, after) := k.search place (t.moved place)
      if ok then (true, after)
      else
        let t := (after.restored inRounds t).moved place
        if admitted then
          let (ok, after) := another (some place) t
          if ok then (true, after) else (false, after.moved place)
        else (false, t)
    else
      let (ok, after) := if admitted then another (some place) t else (false, t)
      if ok then (true, after)
      else
        let t := if admitted then after.restored true t else t
        let (ok, after) := k.search place (t.moved place)
        if ok then (true, after) else (false, after.moved place)

/-- The rounds of a possessive repetition that are needed: the trace after the last of them. -/
def neededRounds (round : Search) : (least : Nat) → Trace → Trial
  | 0, t => (true, t)
  | least + 1, t =>
    let (ok, after) := round t.head t
    if ok then neededRounds round least after else (false, after)

/-- The rounds of a possessive repetition that are not needed, as many as match. A round that is
given up leaves the head where it is. -/
def spareRounds (round : Search) : (fuel : Nat) → (most : Option Nat) → (last : Option Nat) →
    Trace → Trace
  | 0, _, _, t => t
  | fuel + 1, most, last, t =>
    if most = some 0 || last = some t.head then t
    else
      let (ok, after) := round t.head t
      if ok then spareRounds round fuel (most.map (· - 1)) (some t.head) after
      else after.restored true t

/-- A possessive repetition and a tail. -/
def searchPossessive (round : Search) (least : Nat) (most : Option Nat) (k : Tail) : Search :=
  fun place t =>
    let (ok, after) := neededRounds round least (t.moved place)
    if ok then
      let t := spareRounds round (roundBound text) (most.map (· - least)) none after
      k.search t.head t
    else (false, after.moved place)

/-- A look forwards, or backwards over a number of characters, and a tail. -/
def searchLook (inner : Search) (back : Nat) (complement inRounds : Bool) (k : Tail) : Search :=
  fun place t =>
    if place < back then if complement then k.search place t else (false, t)
    else
      let (ok, after) := inner (place - back) (t.moved (place - back))
      if complement then
        if ok then (false, after) else k.search place (after.restored inRounds t)
      else if ok then k.search place after
      else (false, after)

namespace Part

mutual

/-- The search for a part and what follows it. -/
def search : Part → (inRounds : Bool) → Tail → Search
  | one test, _, k => fun place t =>
    if passes text test place then k.search (place + 1) t else (false, t)
  | anchor a, _, k => fun place t => if a.holdsAt text place then k.search place t else (false, t)
  | choice alternatives, inRounds, k => searchChoice alternatives inRounds k
  | group number parts, inRounds, k => fun place t =>
    let stop := Tail.ofSearch fun place t => k.search place (t.marked (2 * (number - 1) + 1) place)
    searchAll parts inRounds stop place (t.marked (2 * (number - 1)) place)
  | scope parts, inRounds, k => searchAll parts inRounds k
  | reference number rule _, _, k => fun place t =>
    match t.properSpan? number with
    | some (start, stop) =>
      if followsGroup text rule start place (stop - start) then
        k.search (place + (stop - start)) t
      else (false, t)
    | none => (false, t)
  | conditional number yes no, inRounds, k => fun place t =>
    if (t.properSpan? number).isSome then
      searchAll yes inRounds (if no.isEmpty then k else .ofSearch k.search) place t
    else searchAll no inRounds k place t
  | repeated parts least most greed, inRounds, k =>
    match onlyTest? parts with
    | some test => searchRun text test least most greed inRounds k
    | none =>
      if greed = .possessive then
        searchPossessive text (searchAll parts inRounds .done) least most k
      else fun place t =>
        searchRounds (searchAll parts true) least most (greed = .modest) inRounds k
          (least + roundBound text) 0 none place (t.moved place)
  | look backwards complement parts, inRounds, k =>
    let back := if backwards then (widthOf parts).least else 0
    searchLook (searchAll parts inRounds .done) back complement inRounds k
  | atomic parts, inRounds, k => fun place t =>
    let (ok, after) := searchAll parts inRounds .done place (t.moved place)
    if ok then k.search after.head after else (false, after.moved place)

/-- The search for parts one after another and what follows them. -/
def searchAll : List Part → (inRounds : Bool) → Tail → Search
  | [], _, k => k.search
  | p :: ps, inRounds, k =>
    p.search inRounds ⟨leadOf ps k.lead, searchAll ps inRounds k⟩

/-- The search for the first of several patterns with which everything fits. A pattern whose first
character is missing is passed over. -/
def searchChoice : List (List Part) → (inRounds : Bool) → Tail → Search
  | [], _, _ => fun _ t => (false, t)
  | ps :: rest, inRounds, k => fun place t =>
    if (leadOf ps .other).isMissing text place then searchChoice rest inRounds k place t
    else
      let (ok, after) := searchAll ps inRounds (.ofSearch k.search) place (t.moved place)
      if ok then (true, after) else searchChoice rest inRounds k place (after.restored inRounds t)

end

end Part

end Search

namespace Pattern

/-- The trace of the match of a pattern at the start of a text. -/
def matchStart? (p : Pattern) (s : Text) : Option Trace :=
  if s.length < (Part.widthOf p.parts).least then none
  else match Part.searchAll s.toArray p.parts false .done 0 ⟨0, []⟩ with
    | (true, t) => some t
    | (false, _) => none

/-- Whether a group ends before it begins. A possessive repetition that goes back can bring that
about. -/
def isCrossed (p : Pattern) (t : Trace) : Bool :=
  (List.range' 1 p.groups).any fun g => (t.span? g).isSome && (t.properSpan? g).isNone

/-- Whether a pattern matches at the start of a text. -/
def matchesStart (p : Pattern) (s : Text) : Except MatchFault Bool :=
  match p.matchStart? s with
  | some t => if p.isCrossed t then .error .crossedGroup else .ok true
  | none => .ok false

end Pattern

end SenderPolicy
