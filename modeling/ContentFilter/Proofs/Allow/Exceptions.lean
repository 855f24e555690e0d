import ContentFilter.Proofs.Allow.Negation

/-! The rules of the user's exceptions beside those of the filters that they are exceptions to. -/

namespace ContentFilter

/-- The filter asks nothing of a request but its page. -/
def NetworkFilter.isPageOnly (filter : NetworkFilter) : Bool :=
  filter.hostname.isNone && filter.pattern.isEmpty && filter.kinds.isEmpty && filter.parties.isEmpty

/-- The condition for some other pages; without any it is for all. -/
def RuleCondition.onPages (condition : RuleCondition) (pages : List String) : RuleCondition :=
  { condition with
    initiatorDomains := Rule.nonEmpty (pages.map fun page => String.ofList (Text.lower page.toList))
    excludedInitiatorDomains := none }

namespace Exceptions

open NetworkFilter FilterOptions

/-- The text is an exception, and its rule has the condition. -/
def Grants (text : String) (condition : RuleCondition) : Prop :=
  ∃ exception rule, NetworkFilter.parse text = .ok exception ∧ exception.isException = true ∧
    Rule.ofFilter exception = .ok rule ∧ rule.condition = condition

variable {text : String} {scope : Option (List String)} {line raw : List Char}
  {options : FilterOptions} {pattern : Pattern} {filter : NetworkFilter} {rule : Rule}

/-- The exception of a pattern and options is limited by something else than pages, or by the scope. -/
theorem isUnrestricted_limited (line : List Char) (pattern : Pattern) (flags : BitSet)
    (scope : Option (List String)) (hcsp : options.csp = none)
    (hcosmetic : flags.mem Flag.genericHide.index = false ∧ flags.mem Flag.elemHide.index = false) :
    isUnrestricted pattern flags (limited options scope) = true ↔ scope.getD [] = [] ∧
      (ofParts line .block flags options pattern.hostname pattern.text).isPageOnly = true := by
  have hmeets : flags.meets (Flag.genericHide.set.union Flag.elemHide.set) = false := by
    refine BitNames.meets_eq_false fun i hi => ?_
    rw [BitSet.mem_union, Flag.set, Flag.set, BitSet.mem_single, BitSet.mem_single,
      Bool.or_eq_true, decide_eq_true_eq, decide_eq_true_eq] at hi
    rcases hi with rfl | rfl
    · exact hcosmetic.1
    · exact hcosmetic.2
  have hpages : (limited options scope).domains.isNone = (scope.getD []).isEmpty := by
    unfold limited constraint? pagesOf
    cases scope.getD [] <;> rfl
  unfold isUnrestricted isPageOnly
  rw [hmeets, hpages]
  simp [limited, hcsp, ofParts]
  tauto

theorem initiators_limited (options : FilterOptions) (scope : Option (List String)) :
    ((limited options scope).domains.bind fun domains => Rule.nonEmpty domains.included) =
      Rule.nonEmpty ((scope.getD []).map fun page => String.ofList (Text.lower page.toList)) ∧
    ((limited options scope).domains.bind fun domains => Rule.nonEmpty domains.excluded) = none := by
  unfold limited constraint? pagesOf
  cases scope.getD [] with
  | nil => exact ⟨rfl, rfl⟩
  | cons page pages => simp [Rule.nonEmpty, Function.comp_def]

/-- An exception with a redirect has no rule. -/
theorem not_grants_of_redirect {name : String} {condition : RuleCondition}
    (hredirect : options.redirect = some name)
    (hparse : NetworkFilter.parse text = assemble raw .allow (limited options scope) pattern) :
    ¬ Grants text condition := by
  have hflag : (optionFlags .allow (limited options scope)).mem Flag.redirectRule.index = true := by
    simp [optionFlags, limited, hredirect, Flag.set]
  rintro ⟨exception, granted, hexception, -, hgranted, -⟩
  rw [hparse, assemble] at hexception
  split at hexception
  · cases hexception
  · cases hexception
    obtain ⟨-, -, -, hclear, -⟩ :=
      Rule.obstacle?_eq_none_iff.1 (Rule.obstacle?_of_ofFilter hgranted)
    simp [has, ofParts, hflag] at hclear

/-- An exception with the pattern and the options of a filter is one to it, unless it has a redirect or
applies to everything. -/
theorem grants_iff_of_readsAs (hfilter : filter =
      ofParts line .block (options.flags.union pattern.flags) options pattern.hostname pattern.text)
    (hrule : Rule.ofFilter filter = .ok rule) (hraw : Domain.IsAscii raw)
    (hparse : NetworkFilter.parse text = assemble raw .allow (limited options scope) pattern) :
    Grants text (rule.condition.onPages (scope.getD [])) ↔
      filter.redirect = none ∧ (scope.getD [] ≠ [] ∨ filter.isPageOnly = false) := by
  obtain ⟨hcsp, hcosmetic, hbad, hredirectRule, -⟩ :=
    Rule.obstacle?_eq_none_iff.1 (Rule.obstacle?_of_ofFilter hrule)
  have hcondition := (Rule.condition_of_ofFilter hrule).2
  subst hfilter
  cases hredirect : options.redirect with
  | some name =>
    apply iff_of_false (not_grants_of_redirect hredirect hparse)
    rintro ⟨hnone, -⟩
    exact Option.some_ne_none name (hredirect.symm.trans hnone)
  | none =>
    have hflags : optionFlags .allow (limited options scope) = options.flags := by
      simp [optionFlags, limited, hredirect]
    have hcsp' : options.csp = none := by simpa [isCsp, ofParts] using hcsp
    have hpage := isUnrestricted_limited line pattern (options.flags.union pattern.flags) scope hcsp'
      (by simpa [isCosmeticException, has, ofParts] using hcosmetic)
    rw [assemble, hflags] at hparse
    cases hunrestricted : isUnrestricted pattern (options.flags.union pattern.flags)
      (limited options scope) with
    | true =>
      apply iff_of_false
      · rintro ⟨exception, granted, hexception, -, -, -⟩
        rw [hparse, hunrestricted] at hexception
        cases hexception
      · obtain ⟨hscope, hpageOnly⟩ := hpage.1 hunrestricted
        rintro ⟨-, h | h⟩
        · exact h hscope
        · exact Bool.eq_false_iff.1 h hpageOnly
    | false =>
      rw [hunrestricted] at hparse
      have hallowed : Rule.obstacle? (ofParts raw .allow (options.flags.union pattern.flags)
          (limited options scope) pattern.hostname pattern.text) = none := by
        refine Rule.obstacle?_eq_none_iff.2 ⟨hcsp, hcosmetic, hbad, hredirectRule, ?_⟩
        rwa [ofParts, String.toList_ofList]
      obtain ⟨granted, hgranted⟩ := Rule.ofFilter_allow rfl hallowed
      obtain ⟨hincluded, hexcluded⟩ := initiators_limited options scope
      refine iff_of_true ⟨_, granted, hparse, rfl, hgranted, ?_⟩ ⟨hredirect, ?_⟩
      · rw [(Rule.condition_of_ofFilter hgranted).2, hcondition, RuleCondition.onPages, ← hincluded,
          ← hexcluded]
        rfl
      · by_contra hnot
        rw [not_or, not_not, Bool.not_eq_false] at hnot
        rw [hpage.2 hnot] at hunrestricted
        cases hunrestricted

/-- What makes the negation of a filter an exception to it. -/
structure IsNegatable (text : String) (filter : NetworkFilter) (scope : Option (List String)) :
    Prop where
  /-- A redirect on an exception cancels redirects and allows nothing. -/
  redirect : filter.redirect = none
  /-- Without its pages and without a scope the exception would be one to every request. -/
  limited : scope.getD [] ≠ [] ∨ filter.isPageOnly = false
  /-- The options begin where the reader of lists sees them, or the line comes out whole. -/
  whole : Exceptions.splitOptions (Text.trim text.toList) =
      NetworkFilter.splitOptions (Text.trim text.toList) ∨
    (negate text scope).toList = '@' :: '@' :: Text.trim text.toList

/-- A filter is the reading of its line. -/
theorem readsAs_of_parse (hfilter : NetworkFilter.parse text = .ok filter)
    (hblock : filter.action = .block) :
    Text.dropStart? "@@" (Text.trim text.toList) = none ∧ ∃ options pattern,
      ReadsAs (Text.trim text.toList) options pattern ∧
      filter = ofParts (Text.trim text.toList) .block (options.flags.union pattern.flags) options
        pattern.hostname pattern.text := by
  rw [NetworkFilter.parse, parseChars_eq] at hfilter
  split at hfilter
  · cases hfilter
  obtain ⟨options, pattern, hreads, -, rfl⟩ := readsAs_of_ofLine hfilter
  have haction : (actionAndLine (Text.trim text.toList)).1 = .block := hblock
  obtain ⟨hats, hline⟩ := actionAndLine_of_block haction
  rw [hline] at hreads
  refine ⟨hats, options, pattern, hreads, ?_⟩
  rw [haction, optionFlags, if_neg (by simp)]

section Parts

variable (hparts : filter =
  ofParts line .block (options.flags.union pattern.flags) options pattern.hostname pattern.text)
include hparts

theorem isAscii_ats (hrule : Rule.ofFilter filter = .ok rule)
    (hpages : ∀ page ∈ pagesOf scope, Domain.IsHostname page) :
    Domain.IsAscii ('@' :: '@' :: Text.trim (negatedLine line scope)) := by
  obtain ⟨-, -, -, -, hline⟩ := Rule.obstacle?_eq_none_iff.1 (Rule.obstacle?_of_ofFilter hrule)
  rw [hparts, ofParts, String.toList_ofList] at hline
  have hnegated := isAscii_negatedLine hline hpages
  intro c hc
  rcases List.mem_cons.1 hc with rfl | hc
  · decide
  rcases List.mem_cons.1 hc with rfl | hc
  · decide
  · exact hnegated c ((Text.trim_infix _).subset hc)

/-- No option of a filter that has a rule takes a slash. -/
theorem not_takesSlash (hrule : Rule.ofFilter filter = .ok rule)
    (hknown : ∀ name, filter.redirect = some name → Resource.find? name ≠ none) :
    ¬ options.TakesSlash := by
  obtain ⟨hcsp, -, -, hredirectRule, -⟩ :=
    Rule.obstacle?_eq_none_iff.1 (Rule.obstacle?_of_ofFilter hrule)
  subst hparts
  rintro (h | h | ⟨name, hname, hlast⟩)
  · simp [isCsp, ofParts, h] at hcsp
  · simp [has, ofParts, h] at hredirectRule
  · exact hknown name hname (Resource.find?_slash (List.mem_of_getLast? hlast))

theorem negatedLine_eq_of_grants (hpages : ∀ page ∈ pagesOf scope, Domain.IsHostname page)
    (hreads : ReadsAs line options pattern)
    (hcut : Exceptions.splitOptions line ≠ NetworkFilter.splitOptions line)
    (hrule : Rule.ofFilter filter = .ok rule)
    (hparse : NetworkFilter.parse text = ofLine raw .allow (Text.trim (negatedLine line scope)))
    (hgrants : Grants text (rule.condition.onPages (scope.getD []))) :
    negatedLine line scope = line := by
  obtain ⟨exception, granted, hexception, -, hgranted, hcondition⟩ := hgrants
  rw [hparse] at hexception
  obtain ⟨options', pattern', hreads', -, rfl⟩ := readsAs_of_ofLine hexception
  obtain ⟨-, hpattern, hline, -⟩ := readsAs_slashed hreads hcut
  rw [(Rule.condition_of_ofFilter hgranted).2] at hcondition
  have hregex : filter.isRegex = true := by
    simp [hparts, isRegex, has, ofParts, hpattern, Flag.set]
  have hsource : (Rule.conditionOf filter).regexFilter = some pattern.text := by
    refine (if_pos hregex).trans ?_
    rw [hparts]
    rfl
  have hregexFilter := congrArg RuleCondition.regexFilter hcondition
  rw [RuleCondition.onPages, (Rule.condition_of_ofFilter hrule).2, hsource, Rule.conditionOf] at hregexFilter
  dsimp only at hregexFilter
  split at hregexFilter
  · next hregex' =>
    have htext : pattern'.text = pattern.text := Option.some.inj hregexFilter
    have hflag : pattern'.flags.mem Flag.regex.index = true := by
      rwa [isRegex, has, ofParts, BitSet.mem_union, notRegex_optionFlags hreads'.options,
        Bool.false_or] at hregex'
    apply negatedLine_eq_of_readPattern hpages hcut
    rw [readPattern_regex hreads'.pattern hflag, htext, ← hline]
  · cases hregexFilter

end Parts

/-- A filter with a rule has a matching exception exactly when it can be negated. -/
theorem grants_negate_iff (hfilter : NetworkFilter.parse text = .ok filter)
    (hrule : Rule.ofFilter filter = .ok rule)
    (haction : rule.action = .block ∨ rule.action = .redirect)
    (hscope : ∀ host ∈ scope.getD [], Domain.IsHostname host.toList) :
    Grants (negate text scope) (rule.condition.onPages (scope.getD [])) ↔
      IsNegatable text filter scope := by
  obtain ⟨hblock, hknown⟩ := Rule.block_of_ofFilter hrule haction
  obtain ⟨hats, options, pattern, hreads, hparts⟩ := readsAs_of_parse hfilter hblock
  have hpages : ∀ page ∈ pagesOf scope, Domain.IsHostname page := by
    intro page hpage
    obtain ⟨host, hhost, rfl⟩ := List.mem_map.1 hpage
    exact hscope host hhost
  have htext := toList_negate hats scope
  have hparse := parse_ats htext fun c => head?_negatedLine (Text.trim_trim _)
  have hreadAgain : ReadsAs (Text.trim (negatedLine (Text.trim text.toList) scope))
      (limited options scope) pattern → (Grants (negate text scope)
        (rule.condition.onPages (scope.getD [])) ↔
          filter.redirect = none ∧ (scope.getD [] ≠ [] ∨ filter.isPageOnly = false)) := by
    intro hagain
    rw [hagain.ofLine_eq] at hparse
    exact grants_iff_of_readsAs hparts hrule (isAscii_ats hparts hrule hpages) hparse
  by_cases hsame : Exceptions.splitOptions (Text.trim text.toList) =
      NetworkFilter.splitOptions (Text.trim text.toList)
  · have hslash := not_takesSlash hparts hrule hknown
    rw [hreadAgain (readsAs_negatedLine (Text.trim_trim _) hpages hreads hslash hsame)]
    exact ⟨fun h => ⟨h.1, h.2, .inl hsame⟩, fun h => ⟨h.redirect, h.limited⟩⟩
  · constructor
    · intro hgrants
      have hwhole := negatedLine_eq_of_grants hparts hpages hreads hsame hrule hparse hgrants
      obtain ⟨hredirect, hlimited⟩ :=
        (hreadAgain (readsAs_of_whole hpages hreads hsame hwhole)).1 hgrants
      exact ⟨hredirect, hlimited, .inr (by rw [htext, hwhole])⟩
    · intro h
      have hwhole : negatedLine (Text.trim text.toList) scope = Text.trim text.toList := by
        have hchars := htext.symm.trans (h.whole.resolve_left hsame)
        simpa using hchars
      exact (hreadAgain (readsAs_of_whole hpages hreads hsame hwhole)).2 ⟨h.redirect, h.limited⟩

/-- The rule of an exception under a condition. -/
def ruleOn (condition : RuleCondition) : Rule where
  priority := Priority.exception
  action := .allow
  condition := condition

theorem Grants.ruleOf?_eq {condition : RuleCondition} (h : Grants text condition) :
    ruleOf? text = some (ruleOn condition) := by
  obtain ⟨exception, granted, hexception, -, hgranted, rfl⟩ := h
  obtain ⟨hid, -⟩ := Rule.condition_of_ofFilter hgranted
  rw [ruleOf?, hexception]
  change ((Rule.ofFilter exception).toOption >>= _) = _
  rw [hgranted]
  simp [Except.toOption, ruleOn, hid]

/-- The pages of an exception; one for all pages has none. -/
def scopeOf (exception : TrackerException) : Option (List String) :=
  if exception.everywhere then none else some exception.domains

theorem mem_rules {config : Config} {db : TrackerDb} {id : String} {exception : TrackerException}
    {condition : RuleCondition} (hid : (id, exception) ∈ config.exceptions.entries)
    (happlies : exception.everywhere = true ∨ exception.domains ≠ [])
    (hfilter : text ∈ (db.filters? id).getD ["||" ++ id ++ "^"])
    (h : Grants (negate text (scopeOf exception)) condition) : ruleOn condition ∈ rules config db := by
  have hfilters : negate text (scopeOf exception) ∈ filters config db := by
    refine List.mem_flatMap.2 ⟨(id, exception), hid, ?_⟩
    have hsilent : ¬ (!exception.everywhere && exception.domains.isEmpty) = true := by
      rcases happlies with h | h <;> simp [h]
    have hall : filtersOf db id exception =
        ((db.filters? id).getD ["||" ++ id ++ "^"]).map fun filter => negate filter (scopeOf exception) :=
      if_neg hsilent
    change negate text (scopeOf exception) ∈ filtersOf db id exception
    rw [hall]
    exact List.mem_map_of_mem hfilter
  exact List.mem_filterMap.2 ⟨_, hfilters, h.ruleOf?_eq⟩

/-- The negation of a filter that has a blocking or redirecting rule is an exception with the rule's own
condition, for the pages of its scope, exactly when the filter can be negated; the user's exception to a
tracker then has that rule for the filter. -/
theorem negate_grants_iff (text : String) (scope : Option (List String)) (filter : NetworkFilter)
    (rule : Rule) (hfilter : NetworkFilter.parse text = .ok filter)
    (hrule : Rule.ofFilter filter = .ok rule)
    (haction : rule.action = .block ∨ rule.action = .redirect)
    (hscope : ∀ host ∈ scope.getD [], Domain.IsHostname host.toList) :
    (Grants (negate text scope) (rule.condition.onPages (scope.getD [])) ↔
      IsNegatable text filter scope) ∧
    ∀ (config : Config) (db : TrackerDb) (id : String) (exception : TrackerException),
      (id, exception) ∈ config.exceptions.entries →
      exception.everywhere = true ∨ exception.domains ≠ [] →
      text ∈ (db.filters? id).getD ["||" ++ id ++ "^"] → scope = scopeOf exception →
      IsNegatable text filter scope →
        ruleOn (rule.condition.onPages (scope.getD [])) ∈ rules config db := by
  have hgrants := grants_negate_iff hfilter hrule haction hscope
  refine ⟨hgrants, fun config db id exception hid happlies hmem hpages hnegatable => ?_⟩
  have hnegated := hgrants.2 hnegatable
  rw [hpages] at hnegated ⊢
  exact mem_rules hid happlies hmem hnegated

/-- A filter for scripts, limited to a page. -/
def scriptText : String := "||t-cdn.net^$script,domain=x.com"

def scriptFilter : NetworkFilter where
  raw := scriptText
  action := .block
  flags := Flag.hostAnchor.set
  hostname := some "t-cdn.net"
  pattern := "^"
  kinds := Kind.script.set
  parties := .empty
  domains := some ⟨["x.com"], []⟩
  redirect := none
  csp := none

/-- A user who lets a tracker load on one page, or on all pages when there is none. -/
def configFor (pages : List String) : Config :=
  { exceptions := .ofList [("t", { everywhere := pages.isEmpty, domains := pages })] }

/-- A tracker that one filter is for. -/
def dbOf (filter : String) : TrackerDb :=
  TrackerDb.insert {} "t" { domains := ["t-cdn.net"], filters := [filter] }

theorem negate_grants_iff_script :
    Grants (negate scriptText (some ["A.com"]))
      ((Rule.conditionOf scriptFilter).onPages ["A.com"]) ∧
    ruleOn ((Rule.conditionOf scriptFilter).onPages ["A.com"]) ∈
      rules (configFor ["A.com"]) (dbOf scriptText) := by
  have hnegatable : IsNegatable scriptText scriptFilter (some ["A.com"]) :=
    ⟨rfl, .inl (by decide), .inl (by decide +kernel)⟩
  have hscope : ∀ host ∈ (some ["A.com"]).getD [], Domain.IsHostname host.toList := by
    intro host hhost
    rw [Option.getD_some, List.mem_singleton] at hhost
    subst hhost
    exact ⟨List.all_eq_true.1 (by decide), by decide, by decide, by decide⟩
  obtain ⟨hgrants, hrules⟩ := negate_grants_iff scriptText (some ["A.com"]) scriptFilter
    { priority := Priority.filterBlock, action := .block, condition := Rule.conditionOf scriptFilter }
    (by decide +kernel) (by decide +kernel) (.inl rfl) hscope
  exact ⟨hgrants.2 hnegatable, hrules (configFor ["A.com"]) (dbOf scriptText) "t" _
    List.mem_cons_self (.inr (by decide)) (by decide +kernel) rfl hnegatable⟩

/-- A filter that puts an empty script in the place of another. -/
def redirectText : String := "||ads.com/ad.js$script,redirect=noopjs"

def redirectFilter : NetworkFilter where
  raw := redirectText
  action := .block
  flags := Flag.hostAnchor.set
  hostname := some "ads.com"
  pattern := "/ad.js"
  kinds := Kind.script.set
  parties := .empty
  domains := none
  redirect := some "noopjs"
  csp := none

/-- The filter has a rule, and a user's exception to it has none. -/
theorem redirect_not_granted :
    NetworkFilter.parse redirectText = .ok redirectFilter ∧
    (∃ rule, Rule.ofFilter redirectFilter = .ok rule ∧ rule.action = .redirect) ∧
    (∀ condition, ¬ Grants (negate redirectText none) condition) ∧
    rules (configFor []) (dbOf redirectText) = [] := by
  refine ⟨by decide +kernel, ⟨_, rfl, rfl⟩, fun condition h => ?_, by decide +kernel⟩
  have hnone : ruleOf? (negate redirectText none) = none := by decide +kernel
  rw [h.ruleOf?_eq] at hnone
  cases hnone

-- a filter for one page only, and an expression with what could end it inside
example : ruleOf? (negate "*$domain=x.com" none) = none := by decide +kernel
example : ruleOf? (negate "/a/$b/" (some ["a.com"])) = none := by decide +kernel

end Exceptions

end ContentFilter
