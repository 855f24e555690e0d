import ContentFilter.Allow.Trust
import ContentFilter.Proofs.Data.KeyMap
import ContentFilter.Proofs.Domain.Lineage
import ContentFilter.Proofs.Filter.Parsed
import ContentFilter.Proofs.Text.Basic

/-! Two readings of the managed trusted domains. The test of a page takes an entry as it is written,
the rule for the browser leaves out the blanks around it and the points at its end. -/

namespace ContentFilter.Text

theorem getLast?_eq_point_of_fold {s t : List Char} (h : lower s = lower t)
    (ht : t.getLast? = some '.') : s.getLast? = some '.' := by
  have hlast : (lower s).getLast? = some '.' := by
    rw [h, lower, List.getLast?_map, ht]
    rfl
  rw [lower, List.getLast?_map, Option.map_eq_some_iff] at hlast
  obtain ⟨c, hc, hpoint⟩ := hlast
  rw [hc, toLower_eq_point.1 hpoint]

theorem not_blank_of_fold {s t : List Char} (h : lower s = lower t)
    (hs : ∀ c ∈ s, isBlank c = false) : ∀ c ∈ t, isBlank c = false := by
  intro c hc
  have hmem : c.toLower ∈ lower s := by
    rw [h]
    exact List.mem_map_of_mem hc
  obtain ⟨d, hd, hsame⟩ := List.mem_map.1 hmem
  rw [← isBlank_toLower, ← hsame, isBlank_toLower]
  exact hs d hd

end ContentFilter.Text

namespace ContentFilter.Trust

open Domain (IsAscii isWithin isWithin_iff isWithin_congr isWithinAny_iff isWithinAny_answers)
open Text (lower isBlank)

/-- The host lies within a domain. -/
def IsUnder (host domain : String) : Prop := isWithin host.toList domain.toList = .ok true

/-- Some rule of the configuration is for a domain that the host lies within. -/
def Covers (config : Config) (host : String) : Prop :=
  ∃ rule ∈ rules config, ∃ domains, rule.condition.requestDomains = some domains ∧
    ∃ domain ∈ domains, IsUnder host domain

/-- The rule takes the entry as it is written, up to the case of its letters. -/
def IsTidy (entry : String) : Prop := ruleDomain entry = String.ofList (lower entry.toList)

instance (entry : String) : Decidable (IsTidy entry) :=
  inferInstanceAs (Decidable (ruleDomain entry = String.ofList (lower entry.toList)))

/-- What the rule for the browser is for. -/
def ruleDomains (config : Config) : List String :=
  KeyMap.distinctKeys ((config.managed.trustedDomains.map ruleDomain).filter (!·.isEmpty))

variable {config : Config} {host entry : String}

theorem rules_eq :
    rules config =
      if (ruleDomains config).isEmpty then []
      else [Rule.allowDocuments Priority.trustedDomain (ruleDomains config)] := rfl

theorem isTrustedDomain_iff (hhost : IsAscii host.toList) :
    isTrustedDomain config host = .ok true ↔
      ∃ entry ∈ config.managed.trustedDomains, IsUnder host entry := by
  rw [isTrustedDomain, isWithinAny_iff hhost]
  simp [IsUnder]

theorem not_isUnder_empty : ¬IsUnder host "" := by
  intro h
  cases h

theorem mem_ruleDomains {domain : String} :
    domain ∈ ruleDomains config ↔
      (∃ entry ∈ config.managed.trustedDomains, ruleDomain entry = domain) ∧ domain ≠ "" := by
  simp [ruleDomains, KeyMap.mem_distinctKeys]

theorem covers_iff :
    Covers config host ↔
      ∃ entry ∈ config.managed.trustedDomains, IsUnder host (ruleDomain entry) := by
  unfold Covers
  rw [rules_eq]
  constructor
  · rintro ⟨rule, hrule, domains, hdomains, domain, hdomain, hunder⟩
    split at hrule
    · cases hrule
    · rw [List.mem_singleton.1 hrule] at hdomains
      cases hdomains
      obtain ⟨⟨entry, hentry, rfl⟩, -⟩ := mem_ruleDomains.1 hdomain
      exact ⟨entry, hentry, hunder⟩
  · rintro ⟨entry, hentry, hunder⟩
    have hne : ruleDomain entry ≠ "" := by
      intro hempty
      rw [hempty] at hunder
      exact not_isUnder_empty hunder
    have hdomain := mem_ruleDomains.2 ⟨⟨entry, hentry, rfl⟩, hne⟩
    have hsome : ¬(ruleDomains config).isEmpty = true := by
      rw [List.isEmpty_iff]
      exact List.ne_nil_of_mem hdomain
    rw [if_neg hsome]
    exact ⟨_, List.mem_singleton_self _, _, rfl, ruleDomain entry, hdomain, hunder⟩

theorem isUnder_ruleDomain_of_tidy (hhost : IsAscii host.toList) (htidy : IsTidy entry) :
    IsUnder host (ruleDomain entry) ↔ IsUnder host entry := by
  apply isWithin_congr hhost
  rw [htidy, String.toList_ofList, Text.lower_lower]

/-- Without blanks and a point at its end there is nothing to tidy up. -/
theorem isTidy_of_last (hblank : ∀ c ∈ entry.toList, isBlank c = false)
    (hlast : entry.toList.getLast? ≠ some '.') : IsTidy entry := by
  rw [IsTidy, ruleDomain, Text.trim_eq_self hblank, Text.dropEndWhile_eq_rdropWhile,
    List.rdropWhile_eq_self_iff.2]
  intro hne hpoint
  apply hlast
  rw [List.getLast?_eq_getLast_of_ne_nil hne, beq_iff_eq.1 hpoint]

/-- A page whose name has no blanks lies within an untidy entry only through a point at the end. -/
theorem last_of_isUnder_untidy (hhost : IsAscii host.toList)
    (hblank : ∀ c ∈ host.toList, isBlank c = false) (htidy : ¬IsTidy entry)
    (hunder : IsUnder host entry) : host.toList.getLast? = some '.' := by
  obtain ⟨hne, before, ending, hsplit, hfold, -⟩ := (isWithin_iff hhost).1 hunder
  have hending : ∀ c ∈ ending, isBlank c = false := by
    intro c hc
    apply hblank
    rw [hsplit]
    exact List.mem_append_right before hc
  have hlast : entry.toList.getLast? = some '.' := by
    by_contra hlast
    exact htidy (isTidy_of_last (Text.not_blank_of_fold hfold hending) hlast)
  rw [hsplit, List.getLast?_append, Text.getLast?_eq_point_of_fold hfold hlast]
  rfl

/-- The domain of a rule ends in no point. -/
theorem last_of_isUnder_ruleDomain (hhost : IsAscii host.toList)
    (hunder : IsUnder host (ruleDomain entry)) : host.toList.getLast? ≠ some '.' := by
  intro hpoint
  obtain ⟨hne, before, ending, hsplit, hfold, -⟩ := (isWithin_iff hhost).1 hunder
  rw [ruleDomain, String.toList_ofList] at hne hfold
  rw [Text.lower_lower, Text.dropEndWhile_eq_rdropWhile] at hfold
  have hkept : (Text.trim entry.toList).rdropWhile (· == '.') ≠ [] := by
    intro hnil
    rw [Text.dropEndWhile_eq_rdropWhile, hnil] at hne
    exact hne rfl
  have hend : ending ≠ [] := by
    rintro rfl
    exact hkept (List.map_eq_nil_iff.1 hfold.symm)
  have hlast : ending.getLast? = some '.' := by
    rw [hsplit, List.getLast?_append_of_ne_nil _ hend] at hpoint
    exact hpoint
  have hdomain := Text.getLast?_eq_point_of_fold hfold.symm hlast
  rw [List.getLast?_eq_getLast_of_ne_nil hkept, Option.some.injEq] at hdomain
  exact List.rdropWhile_last_not (· == '.') _ hkept (beq_iff_eq.2 hdomain)

/-- The test of a page and the rule for the browser agree on a host exactly when a tidy entry names
it, or the untidy entries name it in both readings or in neither; a host without blanks is never
named in both. -/
theorem isTrustedDomain_agrees_iff (config : Config) (host : String)
    (hhost : IsAscii host.toList) :
    ∃ trusted, isTrustedDomain config host = .ok trusted ∧
      ((trusted = true ↔ Covers config host) ↔
        (∃ entry ∈ config.managed.trustedDomains, IsTidy entry ∧ IsUnder host entry) ∨
        ((∃ entry ∈ config.managed.trustedDomains, ¬IsTidy entry ∧ IsUnder host entry) ↔
          ∃ entry ∈ config.managed.trustedDomains,
            ¬IsTidy entry ∧ IsUnder host (ruleDomain entry))) ∧
      ((∀ c ∈ host.toList, isBlank c = false) → ∀ entry other,
        ¬(¬IsTidy entry ∧ IsUnder host entry ∧ IsUnder host (ruleDomain other))) := by
  obtain ⟨trusted, htrusted⟩ :=
    isWithinAny_answers hhost (config.managed.trustedDomains.map String.toList)
  refine ⟨trusted, htrusted, ?_, ?_⟩
  · have htest : trusted = true ↔ ∃ entry ∈ config.managed.trustedDomains, IsUnder host entry := by
      rw [← isTrustedDomain_iff hhost]
      unfold isTrustedDomain
      rw [htrusted, Except.ok.injEq]
    have htidy (entry : String) (h : IsTidy entry) := isUnder_ruleDomain_of_tidy hhost h
    rw [htest, covers_iff]
    grind
  · rintro hblank entry other ⟨hentry, hunder, hother⟩
    exact last_of_isUnder_ruleDomain hhost hother
      (last_of_isUnder_untidy hhost hblank hentry hunder)

/-- Of two entries, only the one in lower case without a point at its end is read in one way. -/
def twoEntries : Config :=
  { managed := { trustedDomains := ["Intranet.Corp.", "wiki.example"] } }

theorem isTrustedDomain_agrees_iff_two_entries :
    IsAscii "a.wiki.example".toList ∧
      ∃ trusted, isTrustedDomain twoEntries "a.wiki.example" = .ok trusted ∧
        (trusted = true ↔ Covers twoEntries "a.wiki.example") := by
  have hascii : IsAscii "a.wiki.example".toList := by decide
  obtain ⟨trusted, htrusted, hagree, -⟩ :=
    isTrustedDomain_agrees_iff twoEntries "a.wiki.example" hascii
  refine ⟨hascii, trusted, htrusted, hagree.2 (.inl ⟨"wiki.example", ?_, ?_, ?_⟩)⟩
  · exact List.mem_cons_of_mem _ (List.mem_singleton_self _)
  · decide
  · rfl

/-- A point at the end of an entry takes the page out of the test and leaves it in the rule. -/
theorem not_isTrustedDomain_of_point :
    isTrustedDomain twoEntries "wiki.intranet.corp" = .ok false ∧
      Covers twoEntries "wiki.intranet.corp" := by
  constructor
  · rfl
  · rw [covers_iff]
    exact ⟨"Intranet.Corp.", List.mem_cons_self, rfl⟩

end ContentFilter.Trust
