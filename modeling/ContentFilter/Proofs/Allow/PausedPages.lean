import ContentFilter.Proofs.Allow.ManagedTrust
import ContentFilter.Proofs.Data.Traverse
import ContentFilter.Rule.Configured

/-! The pauses and the hosts without redirect protection are read in two ways: by a test of the page, and
by rules that the browser is given. Both name the same pages. -/

namespace ContentFilter

open Domain (IsAscii isWithin_answers isWithinAny_answers isWithinAny_iff)
open Trust (IsUnder isPaused)

/-- The rule is for the host: it names no domains, or one that the host lies within. -/
def Rule.Covers (rule : Rule) (host : String) : Prop :=
  rule.condition.requestDomains = none ∨
    ∃ domains, rule.condition.requestDomains = some domains ∧ ∃ domain ∈ domains, IsUnder host domain

theorem Rule.covers_iff_of_domains {rule : Rule} {host : String} {domains : List String}
    (h : rule.condition.requestDomains = some domains) :
    rule.Covers host ↔ ∃ domain ∈ domains, IsUnder host domain := by
  simp [Covers, h]

/-- A pause that goes on is for the host: for all pages, or for a host that it lies within. -/
def Config.Pauses (config : Config) (now : Nat) (host : String) : Prop :=
  ∃ key entry, config.paused.get? key = some entry ∧ entry.isActive now = true ∧
    (key = allPages ∨ IsUnder host key)

/-- The user turned the protection off for a host that this one lies within. -/
def RedirectProtection.Spares (protection : RedirectProtection) (host : String) : Prop :=
  ∃ domain ∈ protection.disabled, IsUnder host domain

variable {config : Config} {now : Nat} {host : String}

namespace Trust

theorem isPaused_answers (hhost : IsAscii host.toList) :
    ∃ paused, isPaused config host now = .ok paused ∧
      (paused = true ↔ config.Pauses now host) := by
  have hpause : ∀ pause ∈ config.paused.entries, ∃ found,
      (if pause.2.isActive now then
        if pause.1 == allPages then .ok true else Domain.isWithin host.toList pause.1.toList
      else .ok false) = .ok found ∧
      (found = true ↔
        pause.2.isActive now = true ∧ (pause.1 = allPages ∨ IsUnder host pause.1)) := by
    rintro ⟨key, entry⟩ -
    cases entry.isActive now with
    | false => exact ⟨false, by simp, by simp⟩
    | true =>
      by_cases hall : key = allPages
      · exact ⟨true, by simp [hall], by simp [hall]⟩
      · obtain ⟨within, hwithin⟩ := isWithin_answers hhost key.toList
        exact ⟨within, by simp [hall, hwithin], by simp [hall, IsUnder, hwithin]⟩
  obtain ⟨paused, hpaused, hany⟩ := anyM_answers hpause
  refine ⟨paused, hpaused, hany.trans ?_⟩
  simp [Config.Pauses, KeyMap.get?_eq_some]

end Trust

namespace Pause

/-- The keys of the pauses that go on. -/
def activeKeys (config : Config) (now : Nat) : List String :=
  (config.paused.entries.filter fun (_, entry) => entry.isActive now).map (·.1)

theorem mem_activeKeys {key : String} :
    key ∈ activeKeys config now ↔
      ∃ entry, config.paused.get? key = some entry ∧ entry.isActive now = true := by
  simp [activeKeys, KeyMap.get?_eq_some]

/-- Some rule is for everything, or for all hosts that are paused by themselves. -/
theorem mem_rules {rule : Rule} :
    rule ∈ rules config now ↔
      allPages ∈ activeKeys config now ∧
        rule = { priority := Priority.pause
                 action := .allowAllRequests
                 condition := { resourceTypes := some Rule.documentTypes } } ∨
      (activeKeys config now).filter (· != allPages) ≠ [] ∧
        rule = Rule.allowDocuments Priority.pause
          ((activeKeys config now).filter (· != allPages)) := by
  have hrules : rules config now =
      (if (activeKeys config now).contains allPages then _ else []) ++
        if ((activeKeys config now).filter (· != allPages)).isEmpty then []
        else [Rule.allowDocuments _ ((activeKeys config now).filter (· != allPages))] := rfl
  rw [hrules, List.mem_append]
  generalize (activeKeys config now).filter (· != allPages) = hosts
  apply or_congr
  · simp
  · cases hosts with
    | nil => simp
    | cons host hosts => simp

theorem rules_cover_iff : (∃ rule ∈ rules config now, rule.Covers host) ↔ config.Pauses now host := by
  constructor
  · rintro ⟨rule, hrule, hcovers⟩
    rcases mem_rules.1 hrule with ⟨hall, -⟩ | ⟨-, rfl⟩
    · obtain ⟨entry, hentry, hactive⟩ := mem_activeKeys.1 hall
      exact ⟨allPages, entry, hentry, hactive, .inl rfl⟩
    · obtain ⟨key, hkey, hunder⟩ := (Rule.covers_iff_of_domains rfl).1 hcovers
      obtain ⟨entry, hentry, hactive⟩ := mem_activeKeys.1 (List.mem_of_mem_filter hkey)
      exact ⟨key, entry, hentry, hactive, .inr hunder⟩
  · rintro ⟨key, entry, hentry, hactive, hkey⟩
    have hmem := mem_activeKeys.2 ⟨entry, hentry, hactive⟩
    by_cases hall : key = allPages
    · subst hall
      exact ⟨_, mem_rules.2 (.inl ⟨hmem, rfl⟩), .inl rfl⟩
    · have hhost : key ∈ (activeKeys config now).filter (· != allPages) := by
        simp [hmem, hall]
      refine ⟨_, mem_rules.2 (.inr ⟨List.ne_nil_of_mem hhost, rfl⟩), ?_⟩
      apply (Rule.covers_iff_of_domains rfl).2
      exact ⟨key, hhost, hkey.resolve_left hall⟩

end Pause

namespace RedirectProtection

variable {protection : RedirectProtection}

theorem isDisabledFor_answers (hhost : IsAscii host.toList) :
    ∃ disabled, isDisabledFor protection host = .ok disabled ∧
      (disabled = true ↔ protection.Spares host) := by
  unfold isDisabledFor
  obtain ⟨disabled, hdisabled⟩ :=
    isWithinAny_answers hhost (protection.disabled.map String.toList)
  refine ⟨disabled, hdisabled, ?_⟩
  have hiff := isWithinAny_iff hhost (protection.disabled.map String.toList)
  rw [hdisabled, Except.ok.injEq] at hiff
  simpa [Spares, IsUnder] using hiff

theorem rules_cover_iff (henabled : protection.enabled = true) :
    (∃ rule ∈ rules protection, rule.Covers host) ↔ protection.Spares host := by
  unfold rules
  cases hdisabled : protection.disabled with
  | nil => simp [Spares, hdisabled]
  | cons domain domains => simp [Spares, Rule.Covers, henabled, hdisabled]

end RedirectProtection

/-- A page is paused exactly when some rule for pauses is for it, and while redirect protection is on it
is without exactly when some rule for that is for it. -/
theorem tests_agree_with_rules (config : Config) (now : Nat) (host : String)
    (hhost : IsAscii host.toList) :
    (∃ paused, isPaused config host now = .ok paused ∧
      (paused = true ↔ ∃ rule ∈ Pause.rules config now, rule.Covers host)) ∧
    (config.redirectProtection.enabled = true →
      ∃ disabled, config.redirectProtection.isDisabledFor host = .ok disabled ∧
        (disabled = true ↔
          ∃ rule ∈ RedirectProtection.rules config.redirectProtection, rule.Covers host)) := by
  constructor
  · rw [Pause.rules_cover_iff]
    exact Trust.isPaused_answers hhost
  · intro henabled
    rw [RedirectProtection.rules_cover_iff henabled]
    exact RedirectProtection.isDisabledFor_answers hhost

/-- One pause goes on and one is over; redirects of the second host are let through. -/
def onePauseLeft : Config :=
  { paused := .ofList [("shop.example", ⟨some 3000⟩), ("news.example", ⟨some 1000⟩)]
    redirectProtection := { disabled := ["news.example"] } }

theorem tests_agree_with_rules_one_pause_left :
    (IsAscii "pay.shop.example".toList ∧ onePauseLeft.redirectProtection.enabled = true) ∧
      (∃ rule ∈ Pause.rules onePauseLeft 2000, rule.Covers "pay.shop.example") ∧
      ¬∃ rule ∈ RedirectProtection.rules onePauseLeft.redirectProtection,
        rule.Covers "pay.shop.example" := by
  have hascii : IsAscii "pay.shop.example".toList := by decide
  have henabled : onePauseLeft.redirectProtection.enabled = true := rfl
  obtain ⟨⟨paused, hpaused, hpause⟩, hprotection⟩ :=
    tests_agree_with_rules onePauseLeft 2000 "pay.shop.example" hascii
  obtain ⟨disabled, hdisabled, hspare⟩ := hprotection henabled
  have htrue : isPaused onePauseLeft "pay.shop.example" 2000 = .ok true := by decide +kernel
  have hfalse : onePauseLeft.redirectProtection.isDisabledFor "pay.shop.example" = .ok false := rfl
  rw [htrue, Except.ok.injEq] at hpaused
  rw [hfalse, Except.ok.injEq] at hdisabled
  refine ⟨⟨hascii, henabled⟩, hpause.1 hpaused.symm, ?_⟩
  rw [← hspare, ← hdisabled]
  exact Bool.false_ne_true

end ContentFilter
