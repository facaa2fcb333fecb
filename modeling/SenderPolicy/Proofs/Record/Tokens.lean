import SenderPolicy.Proofs.Record.Readable
import SenderPolicy.Proofs.Text.Joined

/-!
# The tokens of a record that is written

A record is written as its version tag and its tokens, with one space between each two. Blanks
separate words and are part of none, so the words of such a text are the tokens that it was written
with (`tokens_written`). The tokens of a record may be separated by other blanks and by more of
them, but they are words in any case (`isWord_of_mem_words`).
-/

namespace SenderPolicy

namespace Text

/-- A text that is not empty and has no blank in it. -/
def IsWord (w : Text) : Prop := w ≠ [] ∧ ∀ c ∈ w, isBlank c = false

variable {c : CodePoint} {s t w : Text}

/-- The empty text has no words. -/
theorem words_nil : words [] = [] := by
  simp [words]

/-- At a blank the words of a text come apart. -/
theorem words_append_blank (hc : isBlank c = true) (s t : Text) :
    words (s ++ c :: t) = words s ++ words t := by
  unfold words
  rw [List.splitOnP_append_cons s t hc, List.filter_append]

/-- A word is its only word. -/
theorem words_of_isWord (h : IsWord w) : words w = [w] := by
  unfold words
  rw [List.splitOnP_eq_singleton h.2]
  simp [h.1]

/-- The words of a text are words. -/
theorem isWord_of_mem_words (h : w ∈ words s) : IsWord w := by
  -- Before its first blank a text has at most one word, and after it there is less of the text.
  induction hn : s.length using Nat.strongRecOn generalizing s with
  | ind n ih =>
    by_cases hblank : ∃ c ∈ s, isBlank c = true
    · obtain ⟨c, hc, hblank⟩ := hblank
      obtain ⟨before, after, rfl⟩ := List.append_of_mem hc
      rw [List.length_append, List.length_cons] at hn
      rw [words_append_blank hblank] at h
      rcases List.mem_append.1 h with h | h
      · exact ih before.length (by omega) h rfl
      · exact ih after.length (by omega) h rfl
    · have hnot : ∀ c ∈ s, isBlank c = false := by
        intro c hc
        exact Bool.eq_false_iff.2 fun hc' => hblank ⟨c, hc, hc'⟩
      cases hs : s with
      | nil =>
        rw [hs, words_nil] at h
        cases h
      | cons a rest =>
        have hword : IsWord s := ⟨by rw [hs]; exact List.cons_ne_nil a rest, hnot⟩
        rw [words_of_isWord hword, List.mem_singleton] at h
        exact h ▸ hword

/-- A space separates words. -/
theorem words_space (s t : Text) : words (s ++ (" " : Text) ++ t) = words s ++ words t := by
  rw [List.append_assoc]
  exact words_append_blank (by decide) s t

/-- The words of words with spaces between them are those words. -/
theorem words_joined {ws : List Text} (h : ∀ w ∈ ws, IsWord w) : words (joined " " ws) = ws := by
  induction ws with
  | nil => exact words_nil
  | cons a rest ih =>
    have ha := h a List.mem_cons_self
    have hrest := ih fun w hw => h w (List.mem_cons_of_mem _ hw)
    cases rest with
    | nil =>
      rw [joined_singleton, words_of_isWord ha]
    | cons b rest =>
      rw [joined_cons_cons, words_space, hrest, words_of_isWord ha]
      rfl

end Text

namespace Record

/-- A text that begins with the version tag and a space is an SPF record. -/
theorem isSpfRecord_tag_append (s : Text) :
    isSpfRecord (versionTag ++ (" " : Text) ++ s) = true := by
  have hhead : (versionTag ++ (" " : Text) ++ s).take (versionTag.length + 1) =
      versionTag ++ (" " : Text) := List.take_left' (by decide)
  unfold isSpfRecord
  rw [hhead]
  decide

/-- The tokens of a text that begins with the version tag and a space are the words after them. -/
theorem tokens_tag_append (s : Text) :
    tokens (versionTag ++ (" " : Text) ++ s) = Text.words s := by
  unfold tokens
  rw [List.append_assoc, List.drop_left']
  · exact (Text.words_space [] s).trans (by rw [Text.words_nil, List.nil_append])
  · rfl

/-- The tokens of a record that is written with words are those words. -/
theorem tokens_written {tokens' : List Text} (h : ∀ w ∈ tokens', Text.IsWord w) :
    tokens (Text.joined " " (versionTag :: tokens')) = tokens' := by
  cases tokens' with
  | nil => decide
  | cons a rest =>
    rw [Text.joined_cons_cons, tokens_tag_append, Text.words_joined h]

/-- A record that is written with tokens is an SPF record. -/
theorem isSpfRecord_written (tokens' : List Text) :
    isSpfRecord (Text.joined " " (versionTag :: tokens')) = true := by
  cases tokens' with
  | nil => decide
  | cons a rest =>
    rw [Text.joined_cons_cons]
    exact isSpfRecord_tag_append _

/-- The text that begins with the version tag and a space, and then holds tokens with spaces between
them. -/
def withTokens (tokens : List Text) : Text :=
  versionTag ++ (" " : Text) ++ Text.joined " " tokens

/-- The terms of such a text are the version tag and those of the tokens, if these are words. -/
theorem terms_of_read_withTokens {tokens' : List Text} {domain : Text} {r : Record}
    (hw : ∀ w ∈ tokens', Text.IsWord w) (h : read (withTokens tokens') domain = .ok r) :
    r.terms = .version :: tokens'.filterMap fun token => (Term.read token).toOption := by
  rw [terms_of_read (isSpfRecord_tag_append _) h, tokens_tag_append, Text.words_joined hw]

end Record

end SenderPolicy
