import ContentFilter.Proofs.Config.ListName
import ContentFilter.Proofs.Data.KeyMap
import ContentFilter.Proofs.Rule.Replace
import ContentFilter.Rule.Sync

/-! What the steps of a synchronization do to the host: the shipped rule sets are turned on and off
without a change of any rule, and what is loaded as fixes depends on the source alone. -/

namespace ContentFilter

namespace Fixes

open RuleHost

/-- What the entries of a document come to depends on the host only through the expressions that it
does not support. -/
theorem ends_validate (entry : Json) (unsupported : List String) : ∃ found, ∀ host : RuleHost,
    host.unsupportedRegexes = unsupported →
      (validate entry).Ends host fun result host' => result = found ∧ Same host host' := by
  unfold validate
  split
  · exact ⟨_, fun host _ => Task.ends_pure ⟨rfl, .refl host⟩⟩
  split
  · exact ⟨_, fun host _ => Task.ends_pure ⟨rfl, .refl host⟩⟩
  split
  · exact ⟨_, fun host _ => Task.ends_pure ⟨rfl, .refl host⟩⟩
  next rule _ _ _ _ regex _ =>
  refine ⟨if !unsupported.contains regex then .ok rule else .error (.unsupportedRegex regex),
    fun host hhost => Task.ends_bind (Task.ends_act ?_)⟩
  have hsame : Same host (isRegexSupported regex host).2 := ⟨⟨rfl, rfl, rfl⟩, fun _ => rfl⟩
  have hanswer : (isRegexSupported regex host).1 = !unsupported.contains regex := by
    rw [isRegexSupported, hhost]
  rw [hanswer]
  split <;> exact Task.ends_pure ⟨rfl, hsame⟩

theorem ends_validateAll (entries : List Json) (index : Nat) (unsupported : List String) :
    ∃ found, ∀ host : RuleHost, host.unsupportedRegexes = unsupported →
      (validateAll index entries).Ends host fun load host' => load = found ∧ Same host host' := by
  induction entries generalizing index with
  | nil => exact ⟨{}, fun host _ => Task.ends_pure ⟨rfl, .refl host⟩⟩
  | cons entry rest ih =>
    obtain ⟨first, hfirst⟩ := ends_validate entry unsupported
    obtain ⟨load, hload⟩ := ih (index + 1)
    refine ⟨match first with
      | .ok rule => { load with rules := rule :: load.rules }
      | .error cause => { load with dropped := ⟨index, cause⟩ :: load.dropped }, fun host hhost => ?_⟩
    rw [validateAll]
    refine Task.ends_bind ((hfirst host hhost).mono fun result a ha => ?_)
    obtain ⟨rfl, hsame⟩ := ha
    refine Task.ends_bind ((hload a (hsame.unsupported.trans hhost)).mono fun load' b hb => ?_)
    obtain ⟨rfl, hsame'⟩ := hb
    cases result <;> exact Task.ends_pure ⟨rfl, hsame.trans hsame'⟩

end Fixes

namespace RuleHost

/-- The enabled rule sets other than the fixes are the configured lists that are shipped. -/
def Ships (host : RuleHost) (config : Config) : Prop :=
  ∀ id ≠ Fixes.ruleset, id ∈ host.enabled.keys ↔ id ∈ ListName.enabled config ∧ id ∈ host.available

/-- The host keeps all its rules, whatever rule sets it turns on and off. -/
structure SameRules (host host' : RuleHost) : Prop where
  available : host'.available = host.available
  unsupported : host'.unsupportedRegexes = host.unsupportedRegexes
  rules : ∀ b, host'.rules b = host.rules b

theorem Same.sameRules {host host' : RuleHost} (h : Same host host') : SameRules host host' :=
  ⟨h.available, h.unsupported, h.rules⟩

theorem SameRules.trans {a b c : RuleHost} (hab : SameRules a b) (hbc : SameRules b c) :
    SameRules a c :=
  ⟨hbc.available.trans hab.available, hbc.unsupported.trans hab.unsupported,
    fun session => (hbc.rules session).trans (hab.rules session)⟩

theorem SameRules.rulesOf {host host' : RuleHost} (h : SameRules host host') (family : RuleFamily) :
    host'.rulesOf family = host.rulesOf family := by
  rw [RuleHost.rulesOf, h.rules]
  rfl

/-- Rule sets are turned on and off together, or the call is refused. -/
theorem ends_updateEnabledRulesets (enable disable : List String) (host : RuleHost) :
    (call (updateEnabledRulesets enable disable)).run.Ends host fun result host' =>
      SameRules host host' ∧ match result with
        | .ok () => ∀ id, id ∈ host'.enabled.keys ↔
          id ∈ enable ∨ id ∈ host.enabled.keys ∧ id ∉ disable
        | .error _ => host'.enabled = host.enabled := by
  refine Task.ends_act ?_
  unfold updateEnabledRulesets serve
  dsimp only
  split
  · exact ⟨⟨rfl, rfl, fun _ => rfl⟩, rfl⟩
  · refine ⟨⟨rfl, rfl, fun _ => rfl⟩, fun id => ?_⟩
    dsimp only
    rw [KeyMap.mem_keys_foldl_insert, KeyMap.mem_keys_foldl_erase]

end RuleHost

namespace Synchronizer

open RuleHost

theorem mem_rulesetDelta_enabled {config : Config} {available enabled : List String} {id : String} :
    id ∈ (rulesetDelta config available enabled).enabled ↔
      (id ∈ ListName.enabled config ∧ id ∈ available) ∧ id ∉ enabled := by
  simp [rulesetDelta, KeyMap.mem_distinctKeys, and_assoc, and_comm, and_left_comm]

theorem mem_rulesetDelta_disabled {config : Config} {available enabled : List String} {id : String} :
    id ∈ (rulesetDelta config available enabled).disabled ↔
      id ∈ enabled ∧ ¬ (id ∈ ListName.enabled config ∧ id ∈ available) ∧ id ≠ Fixes.ruleset := by
  simp [rulesetDelta, KeyMap.mem_distinctKeys, Decidable.imp_iff_not_or]

/-- The difference leads to the configured lists that are shipped. -/
theorem mem_after_rulesetDelta {config : Config} {available enabled : List String} {id : String}
    (hid : id ≠ Fixes.ruleset) :
    (id ∈ (rulesetDelta config available enabled).enabled ∨
      id ∈ enabled ∧ id ∉ (rulesetDelta config available enabled).disabled) ↔
      id ∈ ListName.enabled config ∧ id ∈ available := by
  rw [mem_rulesetDelta_enabled, mem_rulesetDelta_disabled]
  by_cases hdesired : id ∈ ListName.enabled config ∧ id ∈ available
  · by_cases henabled : id ∈ enabled <;> simp [hdesired, henabled]
  · simp [hdesired, hid]

/-- The difference leaves the shipped fixes on or off. -/
theorem fixes_mem_after_rulesetDelta {config : Config} {available enabled : List String} :
    (Fixes.ruleset ∈ (rulesetDelta config available enabled).enabled ∨
      Fixes.ruleset ∈ enabled ∧ Fixes.ruleset ∉ (rulesetDelta config available enabled).disabled) ↔
      Fixes.ruleset ∈ enabled := by
  rw [mem_rulesetDelta_enabled, mem_rulesetDelta_disabled]
  simp [ListName.fixes_not_mem_enabled config]

/-- The rule sets are in line afterwards or the step fails; the shipped fixes stay on or off. -/
theorem ends_syncRulesets (config : Config) (host : RuleHost) :
    (syncRulesets config).run.Ends host fun result host' =>
      SameRules host host' ∧
      (Fixes.ruleset ∈ host'.enabled.keys ↔ Fixes.ruleset ∈ host.enabled.keys) ∧
      ∀ delta, result = .ok delta → host'.Ships config := by
  refine Task.ends_except_bind ?_
  refine (ends_question _ (·.available) host fun _ h => h.available).mono fun result a ha => ?_
  obtain ⟨hsame, havailable⟩ := ha
  cases result with
  | error cause => exact ⟨hsame.sameRules, by rw [hsame.enabled], nofun⟩
  | ok available =>
  obtain rfl := havailable available rfl
  refine Task.ends_except_bind ?_
  refine (ends_question _ (·.enabled.keys) a fun _ h => by rw [h.enabled]).mono fun result b hb => ?_
  obtain ⟨hsame', henabled⟩ := hb
  have hrules := hsame.sameRules.trans hsame'.sameRules
  have hkeys : b.enabled = host.enabled := hsame'.enabled.trans hsame.enabled
  cases result with
  | error cause => exact ⟨hrules, by rw [hkeys], nofun⟩
  | ok enabled =>
  obtain rfl := henabled enabled rfl
  rw [hsame.enabled]
  dsimp only
  by_cases hnothing : ((rulesetDelta config host.available host.enabled.keys).enabled.isEmpty &&
      (rulesetDelta config host.available host.enabled.keys).disabled.isEmpty) = true
  · rw [if_pos hnothing]
    refine Task.ends_pure ⟨hrules, by rw [hkeys], fun delta _ id hid => ?_⟩
    rw [Bool.and_eq_true, List.isEmpty_iff, List.isEmpty_iff] at hnothing
    have hafter := @mem_after_rulesetDelta config host.available host.enabled.keys id hid
    rw [hnothing.1, hnothing.2] at hafter
    rw [hkeys, hrules.available, ← hafter]
    simp
  · rw [if_neg hnothing]
    refine Task.ends_except_bind ?_
    refine (ends_updateEnabledRulesets _ _ b).mono fun result c hc => ?_
    obtain ⟨hrules', hchange⟩ := hc
    cases result with
    | error cause => exact ⟨hrules.trans hrules', by rw [hchange, hkeys], nofun⟩
    | ok _ =>
      rw [hkeys] at hchange
      refine Task.ends_pure ⟨hrules.trans hrules', ?_, fun delta _ id hid => ?_⟩
      · rw [hchange, fixes_mem_after_rulesetDelta]
      · rw [hchange, mem_after_rulesetDelta hid, hrules'.available, hrules.available]

/-- What a source of fixes comes to on a host without support for these expressions. -/
def fixesOf (source : Option FileSource) (unsupported : List String) :
    Option (Except Failure Fixes.Load) :=
  ((loadFixes source).run? { unsupportedRegexes := unsupported }).1

theorem ends_loadFixes (source : Option FileSource) (host : RuleHost) :
    (loadFixes source).Ends host fun load host' =>
      fixesOf source host.unsupportedRegexes = some load ∧ Same host host' := by
  obtain ⟨found, hfound⟩ : ∃ found, ∀ a : RuleHost,
      a.unsupportedRegexes = host.unsupportedRegexes →
        (loadFixes source).Ends a fun load b => load = found ∧ Same a b := by
    unfold loadFixes Fixes.load
    split
    · split
      · exact ⟨_, fun a _ => Task.ends_pure ⟨rfl, .refl a⟩⟩
      · next entries _ =>
        obtain ⟨load, hload⟩ := Fixes.ends_validateAll entries 0 host.unsupportedRegexes
        refine ⟨.ok load, fun a ha => Task.ends_bind ((hload a ha).mono ?_)⟩
        rintro found b ⟨rfl, hsame⟩
        exact Task.ends_pure ⟨rfl, hsame⟩
    · exact ⟨_, fun a _ => Task.ends_pure ⟨rfl, .refl a⟩⟩
  obtain ⟨load, a, hrun, rfl, -⟩ := hfound { unsupportedRegexes := host.unsupportedRegexes } rfl
  refine (hfound host rfl).mono fun load' host' hload => ?_
  obtain ⟨rfl, hsame⟩ := hload
  exact ⟨by rw [fixesOf, hrun], hsame⟩

/-- The shipped fixes are on or off as wanted, or the step fails; no other rule set changes. -/
theorem ends_setStandIn (wanted : Bool) (host : RuleHost) :
    (setStandIn wanted).run.Ends host fun result host' =>
      SameRules host host' ∧
      (∀ id ≠ Fixes.ruleset, id ∈ host'.enabled.keys ↔ id ∈ host.enabled.keys) ∧
      (∀ cause, result = .error cause → host'.enabled = host.enabled) ∧
      (result = .ok () → (Fixes.ruleset ∈ host'.enabled.keys ↔ wanted = true)) := by
  refine Task.ends_except_bind ?_
  refine (ends_question _ (·.enabled.keys) host fun _ h => by rw [h.enabled]).mono
    fun result a ha => ?_
  obtain ⟨hsame, henabled⟩ := ha
  cases result with
  | error cause =>
    exact ⟨hsame.sameRules, fun id _ => by rw [hsame.enabled], fun _ _ => hsame.enabled, nofun⟩
  | ok enabled =>
  obtain rfl := henabled enabled rfl
  dsimp only
  by_cases hright : (host.enabled.keys.contains Fixes.ruleset == wanted) = true
  · rw [if_pos hright]
    refine Task.ends_pure ⟨hsame.sameRules, fun id _ => by rw [hsame.enabled], nofun, fun _ => ?_⟩
    rw [beq_iff_eq] at hright
    rw [hsame.enabled, ← hright, List.contains_iff_mem]
  · rw [if_neg hright]
    cases wanted with
    | true =>
      rw [if_pos rfl]
      refine (ends_updateEnabledRulesets [Fixes.ruleset] [] a).mono fun result b hb => ?_
      obtain ⟨hrules, hchange⟩ := hb
      refine ⟨hsame.sameRules.trans hrules, fun id hid => ?_, fun cause herror => ?_, fun hok => ?_⟩
      · cases result with
        | error cause => rw [hchange, hsame.enabled]
        | ok _ =>
          rw [hchange id, hsame.enabled]
          simp [hid]
      · subst herror
        exact hchange.trans hsame.enabled
      · subst hok
        rw [hchange]
        simp
    | false =>
      rw [if_neg (by decide)]
      refine (ends_updateEnabledRulesets [] [Fixes.ruleset] a).mono fun result b hb => ?_
      obtain ⟨hrules, hchange⟩ := hb
      refine ⟨hsame.sameRules.trans hrules, fun id hid => ?_, fun cause herror => ?_, fun hok => ?_⟩
      · cases result with
        | error cause => rw [hchange, hsame.enabled]
        | ok _ =>
          rw [hchange id, hsame.enabled]
          simp [hid]
      · subst herror
        exact hchange.trans hsame.enabled
      · subst hok
        rw [hchange]
        simp

end Synchronizer

end ContentFilter
