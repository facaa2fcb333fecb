import SenderPolicy.Proofs.Network.V6
import SenderPolicy.Proofs.Term.Spelling

/-!
# The networks of terms

The value of an `ip4` or `ip6` mechanism is accepted by a reader of networks in general, whose
language is larger than the grammar of terms: a mask may stand in the place of the number of leading
bits of an IPv4 network, and a scope may follow an IPv6 address. `networks_accepted` says which
values are accepted, which of these are of the grammar, and that any other value is malformed.
-/

namespace SenderPolicy

open Network

section Networks

variable {q : Qualifier} {token v : Text}

/-- A network must follow the colon of `ip4`. -/
theorem Term.read_ip4 (h : IsComposed q .ip4 (.char ':' :: v) token) :
    read token = withValue .ip4 v fun v =>
      if V4.isNetwork v then .ok (.mechanism q (.ip4 v)) else .error (.malformed .badNetwork4) := by
  obtain ⟨qualified, body, hread, hbody⟩ := exists_read_eq_readBody h (by simp [isDelimiter])
  rw [hread]
  unfold readBody
  rw [hbody]
  rfl

/-- A network must follow the colon of `ip6`. -/
theorem Term.read_ip6 (h : IsComposed q .ip6 (.char ':' :: v) token) :
    read token = withValue .ip6 v fun v =>
      if V6.isNetwork v then .ok (.mechanism q (.ip6 v)) else .error (.malformed .badNetwork6) := by
  obtain ⟨qualified, body, hread, hbody⟩ := exists_read_eq_readBody h (by simp [isDelimiter])
  rw [hread]
  unfold readBody
  rw [hbody]
  rfl

/-- A value that passes a test gives a term, and any other is malformed. -/
theorem withValue_test {k : Keyword} {test : Text → Bool} {f : Text → Term} {bad : Malformation}
    (hempty : test [] = false) :
    (¬ test v = true →
        (withValue k v fun v => if test v then .ok (f v) else .error (.malformed bad)) =
          .error (.malformed (if v = [] then .missingValue k else bad))) ∧
      (test v = true →
        (withValue k v fun v => if test v then .ok (f v) else .error (.malformed bad)) =
          .ok (f v)) := by
  cases v with
  | nil => simp [withValue, hempty]
  | cons c v => constructor <;> intro hv <;> simp [withValue, hv]

/-- An IPv4 network that is read was accepted. -/
theorem Term.isNetwork_of_read_ip4 (h : read token = .ok (.mechanism q (.ip4 v))) :
    V4.isNetwork v = true := by
  obtain ⟨q', m, hm, hreadable, -⟩ | ⟨v', hv, -⟩ | ⟨hmodifier, -⟩ := read_eq_ok_cases h
  · cases hm
    exact hreadable.2
  · cases hv
  · cases hmodifier

/-- An IPv6 network that is read was accepted. -/
theorem Term.isNetwork_of_read_ip6 (h : read token = .ok (.mechanism q (.ip6 v))) :
    V6.isNetwork v = true := by
  obtain ⟨q', m, hm, hreadable, -⟩ | ⟨v', hv, -⟩ | ⟨hmodifier, -⟩ := read_eq_ok_cases h
  · cases hm
    exact hreadable.2
  · cases hv
  · cases hmodifier

end Networks

/-- The value of an `ip4` mechanism is an address, alone or with a number of leading bits or a mask
after a slash. It has no mask if and only if no dot follows the slash, and its number of leading
bits is written as the grammar has it if and only if no needless zero stands in front of it either.
The value of an `ip6` mechanism is an address, alone or with a scope after a percent sign, and then
alone or with a number of leading bits after a slash. It has no scope if and only if it holds no
percent sign. A token with any other value after the colon is malformed. -/
theorem networks_accepted (token v : Text) (q : Qualifier) :
    (Term.read token = .ok (.mechanism q (.ip4 v)) →
      IsWithSuffix '/' V4.IsAddress (fun b => IsPrefixLength V4.width b ∨ V4.IsMask b) v ∧
      (IsWithSuffix '/' V4.IsAddress (IsPrefixLength V4.width) v ↔ .char '.' ∉ suffixOf '/' v) ∧
      (IsWithSuffix '/' V4.IsAddress (fun b => ∃ n ≤ V4.width, b = numeral n) v ↔
        .char '.' ∉ suffixOf '/' v ∧ IsShortest (suffixOf '/' v))) ∧
    (Term.read token = .ok (.mechanism q (.ip6 v)) →
      IsWithSuffix '/' (IsWithSuffix '%' V6.IsAddress (· ≠ [])) (IsPrefixLength V6.width) v ∧
      (IsWithSuffix '/' V6.IsAddress (IsPrefixLength V6.width) v ↔ .char '%' ∉ v) ∧
      (IsWithSuffix '/' V6.IsAddress (fun b => ∃ n ≤ V6.width, b = numeral n) v ↔
        .char '%' ∉ v ∧ IsShortest (suffixOf '/' v))) ∧
    (Term.IsComposed q .ip4 (.char ':' :: v) token →
      (¬ IsWithSuffix '/' V4.IsAddress (fun b => IsPrefixLength V4.width b ∨ V4.IsMask b) v →
        Term.read token =
          .error (.malformed (if v = [] then .missingValue .ip4 else .badNetwork4))) ∧
      (IsWithSuffix '/' V4.IsAddress (fun b => IsPrefixLength V4.width b ∨ V4.IsMask b) v →
        Term.read token = .ok (.mechanism q (.ip4 v)))) ∧
    (Term.IsComposed q .ip6 (.char ':' :: v) token →
      (¬ IsWithSuffix '/' (IsWithSuffix '%' V6.IsAddress (· ≠ [])) (IsPrefixLength V6.width) v →
        Term.read token =
          .error (.malformed (if v = [] then .missingValue .ip6 else .badNetwork6))) ∧
      (IsWithSuffix '/' (IsWithSuffix '%' V6.IsAddress (· ≠ [])) (IsPrefixLength V6.width) v →
        Term.read token = .ok (.mechanism q (.ip6 v)))) := by
  refine ⟨fun h => ?_, fun h => ?_, fun h => ?_, fun h => ?_⟩
  · have hv := Term.isNetwork_of_read_ip4 h
    rw [numeral_suffix_iff (by decide), V4.plain_iff hv]
    exact ⟨V4.isNetwork_iff.1 hv, Iff.rfl, Iff.rfl⟩
  · have hv := Term.isNetwork_of_read_ip6 h
    rw [numeral_suffix_iff (by decide), V6.plain_iff hv]
    exact ⟨V6.isNetwork_iff.1 hv, Iff.rfl, Iff.rfl⟩
  · rw [Term.read_ip4 h, ← V4.isNetwork_iff]
    exact withValue_test rfl
  · rw [Term.read_ip6 h, ← V6.isNetwork_iff]
    exact withValue_test rfl

/-- A network with a number of leading bits, and values that are no networks. -/
theorem leadingBits_accepted :
    IsWithSuffix '/' V4.IsAddress (fun b => ∃ n ≤ V4.width, b = numeral n) "192.0.2.0/24" ∧
      IsWithSuffix '/' V6.IsAddress (fun b => ∃ n ≤ V6.width, b = numeral n)
        "2001:db8::192.0.2.1/64" ∧
      Term.read "~IP4:192.0.2.256" = .error (.malformed .badNetwork4) ∧
      Term.read "ip6:" = .error (.malformed (.missingValue .ip6)) := by
  have hip4 : Term.read "ip4:192.0.2.0/24" = .ok (.mechanism .pass (.ip4 "192.0.2.0/24")) := rfl
  have hip6 : Term.read "ip6:2001:db8::192.0.2.1/64" =
      .ok (.mechanism .pass (.ip6 "2001:db8::192.0.2.1/64")) := rfl
  refine ⟨((networks_accepted _ _ _).1 hip4).2.2.2 ⟨by decide, .inr (by decide)⟩,
    ((networks_accepted _ _ _).2.1 hip6).2.2.2 ⟨by decide, .inr (by decide)⟩, ?_, ?_⟩
  · obtain ⟨-, -, hread4, -⟩ := networks_accepted "~IP4:192.0.2.256" "192.0.2.256" .softFail
    refine (hread4 ⟨"~", "IP4", .inl rfl, rfl, rfl⟩).1 fun h => ?_
    exact absurd (V4.isNetwork_iff.2 h) (by decide)
  · obtain ⟨-, -, -, hread6⟩ := networks_accepted "ip6:" [] .pass
    refine (hread6 ⟨[], "ip6", .inr ⟨rfl, rfl⟩, rfl, rfl⟩).1 fun h => ?_
    exact absurd (V6.isNetwork_iff.2 h) (by decide)

/-- A mask in either form and a scope are accepted, which are not of the grammar. -/
theorem masks_and_scopes_accepted :
    (Term.read "ip4:10.0.0.0/255.0.0.0" = .ok (.mechanism .pass (.ip4 "10.0.0.0/255.0.0.0")) ∧
      ¬ IsWithSuffix '/' V4.IsAddress (IsPrefixLength V4.width) "10.0.0.0/255.0.0.0") ∧
    (Term.read "ip4:10.0.0.0/0.0.0.255" = .ok (.mechanism .pass (.ip4 "10.0.0.0/0.0.0.255")) ∧
      ¬ IsWithSuffix '/' V4.IsAddress (IsPrefixLength V4.width) "10.0.0.0/0.0.0.255") ∧
    Term.read "ip6:fe80::1%eth0" = .ok (.mechanism .pass (.ip6 "fe80::1%eth0")) ∧
      ¬ IsWithSuffix '/' V6.IsAddress (IsPrefixLength V6.width) "fe80::1%eth0" := by
  refine ⟨⟨rfl, ?_⟩, ⟨rfl, ?_⟩, rfl, ?_⟩
  · rw [V4.plain_iff (by decide)]
    decide
  · rw [V4.plain_iff (by decide)]
    decide
  · rw [V6.plain_iff (by decide)]
    decide

end SenderPolicy
