import SenderPolicy.CommandLine

/-!
# The command for the report on a domain

A word that does not begin with a hyphen is no option, so it is the argument of the command
whatever else it holds. The command then is misused if the word names no host, and prints the report
on the normal form of the word if it does (`run_validate`).
-/

namespace SenderPolicy.CommandLine

section Words

variable {word : Text} (h : word.head? ≠ some (.char '-'))

include h

/-- A word that does not begin with a hyphen is no option. -/
theorem isOption_eq_false : isOption word = false := by
  rw [isOption, Bool.and_eq_false_iff]
  exact .inl (decide_eq_false h)

/-- Where options and arguments are not mixed, a word that does not begin with a hyphen ends the
options. -/
theorem sortWords_cons (os : List OptionForm) (rest : List Text) :
    sortWords os false (word :: rest) = .ok ⟨[], word :: rest⟩ := by
  have hdashes : word ≠ "--" := by
    rintro rfl
    exact h rfl
  rw [sortWords, if_neg hdashes, isOption_eq_false h]
  rfl

/-- A single word that does not begin with a hyphen is an argument. -/
theorem sortWords_singleton (os : List OptionForm) :
    sortWords os true [word] = .ok ⟨[], [word]⟩ := by
  have hdashes : word ≠ "--" := by
    rintro rfl
    exact h rfl
  rw [sortWords, if_neg hdashes, isOption_eq_false h]
  rfl

/-- The word after the name of the command is its only argument. -/
theorem readWords_validate : readWords Command.validate.form [word] = .ok ⟨[], [word]⟩ := by
  have hmixed : Command.validate.form.commands.isEmpty = true := rfl
  simp only [readWords, hmixed, sortWords_singleton h]
  rfl

end Words

/-- The name of the command ends the options of the program. -/
theorem readProgram_validate (rest : List Text) :
    readProgram ("validate-spf" :: rest) = .ok ("validate-spf", rest) := by
  have hmixed : programForm.commands.isEmpty = false := rfl
  have hhead : ("validate-spf" : Text).head? ≠ some (.char '-') := by decide
  simp only [readProgram, readWords, hmixed, sortWords_cons hhead]
  rfl

/-- A run of the program is completed with a status and prints a text. -/
structure Outcome.Prints {τ : Type} (o : Outcome τ) (status : Nat) (output : Text) : Prop where
  /-- The run is completed. -/
  abort : o.abort = none
  /-- The status of the run. -/
  status : o.status = status
  /-- What is printed. -/
  output : o.output = output

variable {τ : Type} [Seconds τ]

/-- The command reports on the domain that it is given, if it is a hostname, and is misused if it is
none. -/
theorem run_validate (s : Http.Service τ) (w : Http.Surroundings τ) (a : Admissions τ) {d : Text}
    (h : d.head? ≠ some (.char '-')) :
    run s w a ["validate-spf", d] =
      match hostname? d with
      | none => .misused Command.validate.form .badDomain a
      | some name => .ofReport (s.assessor.assess w.zone w.now w.moment name) a := by
  have hcommand : Command.ofName? ("validate-spf" : Text) = some .validate := by decide
  simp only [run, readProgram_validate, hcommand, runCommand, readWords_validate h, bind,
    Except.bind, perform, List.headD]
  cases hostname? d <;> rfl

end SenderPolicy.CommandLine
