import SenderPolicy.Proofs.Chain.Agreement
import SenderPolicy.Report

/-!
# A preview tells what publishing the record would

`preview` expands a record that is given for a domain, and `resolve` the one that the domain
publishes. When the domain publishes just the record that was given, both walk from the same root.
What the domain publishes besides is never asked for in the walk (`walk_of_agreeOff`), so they find
the same, if the lookup of the root leaves the time that the preview is allowed.

`preview_agrees_with_publishing` says so for chains and for the reports on them. The last section
shows a clock on which the seconds that are left after the lookup of the root do not last as long
when they are allowed to the preview.
-/

namespace SenderPolicy

/-- A zone is another one in which a domain publishes just one SPF record. -/
structure Zone.Publishes {τ : Type} (z z' : Zone τ) (domain raw : Text) : Prop where
  /-- For every other domain the zones answer alike. -/
  agree : z.AgreeOff domain z'
  /-- Of the texts of the domain, one is an SPF record. -/
  answer : ∃ texts, z'.answer domain = .texts texts ∧ selectSpfRecords texts = [raw]

section Timing

variable {τ : Type} [Seconds τ] {z z' : Zone τ} {domain raw : Text}

/-- Alone, a domain is the root of its walk. -/
theorem rootedAt_singleton (domain : Text) (terms : List Term) :
    RootedAt domain [⟨domain, terms⟩] := by
  intro name hname
  exact (Option.some.inj hname).symm

namespace Chain

/-- The expansion of a record finds the same in zones that agree off its domain, at times that are
in step. -/
theorem outcome_evaluate_of_agreeOff {l l' : Limits τ} {deadline deadline' now now' : τ}
    (hz : z.AgreeOff domain z') (hl : l'.lookups = l.lookups)
    (ht : InStep z deadline now deadline' now') (records : List Text) (raw : Text) :
    (evaluate z' l' deadline' now' domain records raw).outcome =
      (evaluate z l deadline now domain records raw).outcome := by
  unfold evaluate
  cases Record.read raw domain with
  | error a => rfl
  | ok root =>
    simp only [hl, walk_of_agreeOff hz now' (rootedAt_singleton domain root.terms) ht]

/-- A record is previewed as it would be resolved if it were published, provided that the time after
the lookup of the domain is in step with the start of the preview. -/
theorem outcome_resolve_eq_preview {l l' : Limits τ} {now now' : τ}
    (hz : z.Publishes z' (normalizeDomain domain) raw) (hl : l'.lookups = l.lookups)
    (ht : InStep z (now' + l'.seconds) now' (now + l.seconds)
      (now + z'.delay (normalizeDomain domain))) :
    (resolve z' l now domain).outcome = (preview z l' now' domain raw).outcome := by
  obtain ⟨texts, ha, hs⟩ := hz.answer
  rw [resolve_outcome, ha, ofAnswer, (ofTexts_of_select z' l _ _ _ hs).1]
  exact outcome_evaluate_of_agreeOff hz.agree hl.symm ht [raw] raw

/-- The preview of a record does not depend on what its domain publishes. -/
theorem preview_of_agreeOff (hz : z.AgreeOff (normalizeDomain domain) z') (l : Limits τ) (now : τ)
    (raw : Text) : preview z' l now domain raw = preview z l now domain raw := by
  unfold preview evaluate
  cases Record.read raw (normalizeDomain domain) with
  | error a => rfl
  | ok root =>
    simp only [walk_of_agreeOff hz now (rootedAt_singleton _ root.terms) (.refl z _ now)]

end Chain

omit [Seconds τ] in
/-- The reports on chains that are found alike differ at most in their moments. -/
theorem Traced.outcome_report_eq {t t' : Traced τ Chain} (h : t.outcome = t'.outcome)
    (limit : LookupLimit) (moment moment' : Instant) :
    (t.report limit moment).outcome =
      (t'.report limit moment').outcome.map fun r => { r with moment := moment } := by
  unfold report
  rw [h]
  cases t'.outcome <;> rfl

/-- A record is reported on as it would be if it were published, up to the moment of the report. -/
theorem Validator.outcome_validate_eq {v v' : Validator τ} {now now' : τ}
    (h : (Chain.resolve z' v.chain now domain).outcome =
      (Chain.preview z v'.chain now' domain raw).outcome)
    (hl : v'.limit = v.limit) (moment moment' : Instant) :
    (v.validate z' now moment domain).outcome =
      (v'.validateRecord z now' moment' domain raw).outcome.map fun r =>
        { r with moment := moment } := by
  unfold validate validateRecord
  rw [hl]
  exact Traced.outcome_report_eq h v.limit moment moment'

end Timing

/-- Previewing a record tells what publishing it would. On an exact clock, a preview that is allowed
the seconds that the lookup of the domain leaves finds what resolving the domain finds, whenever
each of them is begun. If the lookup takes no time, the reports differ at most in their moments. On
any clock, the same holds as long as the times are in step. No preview depends on what the domain
itself publishes. -/
theorem preview_agrees_with_publishing :
    (∀ (z z' : Zone Rat) (v : Validator Rat) (now now' : Rat) (moment moment' : Instant)
      (domain raw : Text), z.Publishes z' (normalizeDomain domain) raw →
        (Chain.resolve z' v.chain now domain).outcome =
            (Chain.preview z ⟨v.chain.lookups, v.chain.seconds - z'.delay (normalizeDomain domain)⟩
              now' domain raw).outcome ∧
          (z'.delay (normalizeDomain domain) = 0 →
            (v.validate z' now moment domain).outcome =
              (v.validateRecord z now' moment' domain raw).outcome.map fun r =>
                { r with moment := moment })) ∧
    (∀ (τ : Type) [Seconds τ] (z z' : Zone τ) (v v' : Validator τ) (now now' : τ)
      (moment moment' : Instant) (domain raw : Text),
        z.Publishes z' (normalizeDomain domain) raw → v'.chain.lookups = v.chain.lookups →
        v'.limit = v.limit →
        InStep z (now' + v'.chain.seconds) now' (now + v.chain.seconds)
          (now + z'.delay (normalizeDomain domain)) →
        (Chain.resolve z' v.chain now domain).outcome =
            (Chain.preview z v'.chain now' domain raw).outcome ∧
          (v.validate z' now moment domain).outcome =
            (v'.validateRecord z now' moment' domain raw).outcome.map fun r =>
              { r with moment := moment }) ∧
    (∀ (τ : Type) [Seconds τ] (z z' : Zone τ) (l : Limits τ) (now : τ) (domain raw : Text),
      z.AgreeOff (normalizeDomain domain) z' →
        Chain.preview z' l now domain raw = Chain.preview z l now domain raw) := by
  refine ⟨?_, ?_, ?_⟩
  · intro z z' v now now' moment moment' domain raw hz
    let left : Limits Rat :=
      ⟨v.chain.lookups, v.chain.seconds - z'.delay (normalizeDomain domain)⟩
    -- Both deadlines are equally far away when the walks begin.
    have hstep : InStep z (now' + left.seconds) now' (now + v.chain.seconds)
        (now + z'.delay (normalizeDomain domain)) :=
      .of_sub_eq (by simp only [left]; linarith)
    have hchain : (Chain.resolve z' v.chain now domain).outcome =
        (Chain.preview z left now' domain raw).outcome :=
      Chain.outcome_resolve_eq_preview hz rfl hstep
    refine ⟨hchain, fun hdelay => ?_⟩
    have hleft : left = v.chain := by simp only [left, hdelay, sub_zero]
    rw [hleft] at hchain
    exact Validator.outcome_validate_eq hchain rfl moment moment'
  · intro τ _ z z' v v' now now' moment moment' domain raw hz hlookups hlimit hstep
    have hchain := Chain.outcome_resolve_eq_preview hz hlookups hstep
    exact ⟨hchain, Validator.outcome_validate_eq hchain hlimit moment moment'⟩
  · intro τ _ z z' l now domain raw hz
    exact Chain.preview_of_agreeOff hz l now raw

/-- A zone in which one domain publishes the given texts and every other domain refers back to it.
-/
def backlinkZone (texts : List Text) : Zone Rat where
  answer domain := if domain = ("a" : Text) then .texts texts else .texts ["v=spf1 include:a -all"]
  delay domain := if domain = ("a" : Text) then 2 else 0

/-- The record of the domain is published in the one zone and not in the other. -/
theorem backlinkZone_publishes :
    (backlinkZone []).Publishes (backlinkZone ["a note", "v=spf1 include:b -all"])
      (normalizeDomain ("a" : Text)) ("v=spf1 include:b -all" : Text) where
  agree := by
    have hname : normalizeDomain ("a" : Text) = ("a" : Text) := by decide +kernel
    rw [hname]
    exact ⟨fun name hne => by simp only [backlinkZone, if_neg hne], fun name _ => rfl⟩
  answer := ⟨["a note", "v=spf1 include:b -all"], by decide +kernel, by decide +kernel⟩

/-- The lookup of the domain takes two of five seconds, so a preview that is allowed three finds the
same: a reference that leads back to the domain is a loop in both. -/
theorem backlinkZone_previewed :
    ∃ c, (Chain.resolve (backlinkZone ["a note", "v=spf1 include:b -all"]) ⟨(10 : Int), 5⟩ 0
        ("a" : Text)).outcome = .ok c ∧
      (Chain.preview (backlinkZone []) ⟨(10 : Int), 5 - 2⟩ 7 ("a" : Text)
        ("v=spf1 include:b -all" : Text)).outcome = .ok c ∧
      c.cycles = [(("b" : Text), ("a" : Text))] := by
  obtain ⟨c, hc, hcycles⟩ : ∃ c, (Chain.resolve
      (backlinkZone ["a note", "v=spf1 include:b -all"]) ⟨(10 : Int), 5⟩ 0
        ("a" : Text)).outcome = .ok c ∧ c.cycles = [(("b" : Text), ("a" : Text))] :=
    exists_ok_of_map_toOption Chain.cycles (by decide +kernel)
  refine ⟨c, hc, ?_, hcycles⟩
  have hsame := (preview_agrees_with_publishing.1 _ _ (.ofLimits ⟨(10 : Int), 5⟩) 0 7
    ⟨2024, 1, 1, 0, 0, 0, 0⟩ ⟨2024, 1, 1, 0, 0, 0, 0⟩ ("a" : Text) _ backlinkZone_publishes).1
  have hdelay : (backlinkZone ["a note", "v=spf1 include:b -all"]).delay
      (normalizeDomain ("a" : Text)) = 2 := by decide +kernel
  rw [hdelay] at hsame
  exact hsame.symm.trans hc

/-! ## Where sums are rounded -/

/-- The record of a domain that refers to two others. -/
def tenthsRecord : Text := "v=spf1 include:b include:c -all"

/-- A zone on a machine's clock in which every lookup takes three tenths of a second. One domain
publishes the given texts, and the records of the others refer to no domain. -/
def tenthsZone (texts : List Text) : Zone Binary64 where
  answer domain := if domain = ("a" : Text) then .texts texts else .texts ["v=spf1 -all"]
  delay _ := .ofDecimal false 3 (-1)

/-- The record of the domain is published in the one zone and not in the other. -/
theorem tenthsZone_publishes : (tenthsZone []).Publishes (tenthsZone [tenthsRecord])
    (normalizeDomain ("a" : Text)) tenthsRecord where
  agree := by
    have hname : normalizeDomain ("a" : Text) = ("a" : Text) := by decide +kernel
    rw [hname]
    exact ⟨fun name hne => by simp only [tenthsZone, if_neg hne], fun name _ => rfl⟩
  answer := ⟨[tenthsRecord], by decide +kernel, by decide +kernel⟩

/-- What is found of a chain in the allowed time: whether the time was used up, and the domains. -/
def Chain.reached (c : Chain) : Bool × List Text := (c.timedOut, c.nodes.map Node.domain)

/-- On a machine, a preview that is allowed the seconds that the lookup of the domain leaves may
find less than resolving the domain does. Begun at the time 1000, two lookups of three tenths of a
second end just before a deadline that is set after six tenths, so a third domain is looked up. Of
the three tenths that are left to the preview, nothing remains after its first lookup. -/
theorem tenthsZone_previewed_otherwise :
    (tenthsZone []).Publishes (tenthsZone [tenthsRecord]) (normalizeDomain ("a" : Text))
        tenthsRecord ∧
      (Chain.resolve (tenthsZone [tenthsRecord]) ⟨(10 : Int), .ofDecimal false 6 (-1)⟩
          (.ofInt 1000) ("a" : Text)).outcome.toOption.map Chain.reached =
        some (false, (["a", "b", "c"] : List Text)) ∧
      (Chain.preview (tenthsZone [])
          ⟨(10 : Int), .ofDecimal false 6 (-1) -
            (tenthsZone [tenthsRecord]).delay (normalizeDomain ("a" : Text))⟩
          (.ofInt 1000) ("a" : Text) tenthsRecord).outcome.toOption.map Chain.reached =
        some (true, (["a", "b"] : List Text)) :=
  ⟨tenthsZone_publishes, by decide +kernel, by decide +kernel⟩

end SenderPolicy
