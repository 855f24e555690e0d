import ContentFilter.Proofs.Browser.Allowances
import ContentFilter.Proofs.Rule.ExceptionsStep
import ContentFilter.Proofs.Rule.SyncRun

/-! Where rules are put, step by step. An update is made for one family, with numbers of its range and
in its store, and what is there besides stays; a family with more rules than numbers gets no update. -/

namespace ContentFilter

theorem RuleFamily.of?_of_contains {family : RuleFamily} {id : Nat} (h : family.contains id = true) :
    of? id = some family := by
  cases hfound : of? id with
  | none =>
    have hall : family ∈ all := by cases family <;> decide
    exact absurd h (List.find?_eq_none.1 hfound family hall)
  | some other =>
    rw [of?] at hfound
    have hother := List.find?_some hfound
    rw [eq_of_contains hother h]

/-- The update stays within the range and the store of a family, for which these rules were built and
which has a number for each of them. -/
structure RuleFamily.Confines (family : RuleFamily) (rules : List Rule) (isSession : Bool)
    (removed : List Nat) (added : List Rule) : Prop where
  store : isSession = true ↔ family = .redirectAllowOnce
  removes : ∀ id ∈ removed, of? id = some family
  adds : ∀ rule ∈ added, of? rule.id = some family
  distinct : (added.map (·.id)).Nodup
  fits : rules.length ≤ family.capacity
  numbered : ∃ numbered, family.assign rules = .ok numbered ∧ added.Sublist numbered

theorem RuleFamily.confines {family : RuleFamily} {rules numbered : List Rule} {removed : List Nat}
    {added : List Rule} (hassign : family.assign rules = .ok numbered)
    (hremoved : ∀ id ∈ removed, family.contains id = true) (hadded : added.Sublist numbered) :
    family.Confines rules family.isSession removed added where
  store := beq_iff_eq
  removes id hid := of?_of_contains (hremoved id hid)
  adds rule hrule := of?_of_contains ((assign_ordered hassign).1 rule (hadded.subset hrule))
  distinct := (List.pairwise_map.2 ((assign_ordered hassign).2.imp Nat.ne_of_lt)).sublist
    (hadded.map _)
  fits := by
    by_contra hover
    rw [assign, if_pos (Nat.not_le.1 hover)] at hassign
    cases hassign
  numbered := ⟨numbered, hassign, hadded⟩

namespace RuleHost

variable {α : Type} {built : RuleFamily → Option (List Rule)} {family : RuleFamily}
  {rules numbered : List Rule} {removed : List Nat} {added : List Rule}

theorem Idles.refl (host : RuleHost) : Idles host host :=
  ⟨.refl host, fun _ => rfl, rfl, [], rfl, List.forall_mem_nil _⟩

/-- What one step does to the host when these rules are built for the families: no rules are updated, or
those of one family are. -/
inductive Files (built : RuleFamily → Option (List Rule)) (host host' : RuleHost) : Prop
  | idle (hidles : Idles host host')
  | update {family : RuleFamily} {rules : List Rule} {isSession : Bool} {removed : List Nat}
    {added : List Rule} (hbuilt : built family = some rules)
    (hconfines : family.Confines rules isSession removed added)
    (hlog : host'.log = .updateRules isSession removed added :: host.log)
    (helsewhere : host'.rules (!isSession) = host.rules (!isSession))
    (houtside : (host'.rules isSession).filter (fun rule => !family.contains rule.id) =
      (host.rules isSession).filter fun rule => !family.contains rule.id)

theorem files_updateRules (hbuilt : built family = some rules)
    (hassign : family.assign rules = .ok numbered)
    (hremoved : ∀ id ∈ removed, family.contains id = true) (hadded : added.Sublist numbered)
    (host : RuleHost) : Files built host (updateRules family.isSession removed added host).2 := by
  have hlog := log_updateRules family.isSession removed added host
  obtain ⟨-, hone⟩ := updateRules_all_or_nothing family.isSession removed added host
  cases hanswer : (updateRules family.isSession removed added host).1 with
  | ok found =>
    rw [hanswer] at hone
    obtain ⟨result, hinsert, hrules⟩ := hone
    have hout : ∀ rule ∈ added, (!family.contains rule.id) = false := fun rule hrule => by
      simp [(RuleFamily.assign_ordered hassign).1 rule (hadded.subset hrule)]
    refine .update hbuilt (RuleFamily.confines hassign hremoved hadded) hlog ?_ ?_
    · rw [hrules, if_neg (by simp)]
    · rw [hrules, if_pos rfl, RuleTable.filter_insertAll_of_neg hout hinsert,
        filter_remove_outside hremoved]
  | error cause =>
    rw [hanswer] at hone
    refine .update hbuilt (RuleFamily.confines hassign hremoved hadded) hlog (hone _) ?_
    rw [hone]

/-- Steps that put the rules built for the families where they belong. -/
def filing (built : RuleFamily → Option (List Rule)) : Task.Discipline Unit RuleHost where
  may _ _ := True
  move _ host _ host' := host'.unsupportedRegexes = host.unsupportedRegexes ∧ Files built host host'

/-- A family with more rules than numbers is refused. -/
def Refuses (family : RuleFamily) (rules : List Rule) (result : Except Failure α) : Prop :=
  family.capacity < rules.length → result = .error (.overflow ⟨family, rules.length⟩)

theorem refuses_of_assign (hassign : family.assign rules = .ok numbered)
    (result : Except Failure α) : Refuses family rules result := by
  intro hover
  rw [RuleFamily.assign, if_pos hover] at hassign
  cases hassign

theorem refuses_overflow {overflow : RuleFamily.Overflow}
    (hassign : family.assign rules = .error overflow) :
    Refuses family rules (.error (.overflow overflow) : Except Failure α) := by
  intro hover
  rw [RuleFamily.assign, if_pos hover] at hassign
  cases hassign
  rfl

theorem Calm.files {task : Task RuleHost α} (h : Calm task) :
    task.Follows (filing built) (fun _ _ => True) () :=
  @Task.Follows.embed _ _ _ _ _ _ _ (filing built) id _ _ h (fun _ _ _ => trivial)
    (fun _ _ _ _ (hidles : Idles _ _) => ⟨hidles.unsupported, .idle hidles⟩) fun _ _ _ => trivial

theorem files_idsOf (family : RuleFamily) : (idsOf family).run.Follows (filing built)
    (fun result _ => ∀ ids, result = .ok ids → ∀ id ∈ ids, family.contains id = true) () := by
  refine Task.Follows.except_bind (Calm.files (calm_question rfl _)) (fun rules _ _ => ?_) ?_
  · refine Task.follows_pure ?_
    rintro ids ⟨⟩ id hid
    exact (List.mem_filter.1 hid).2
  · exact fun _ _ _ _ => nofun

theorem follows_filing_updateRules (hbuilt : built family = some rules)
    (hassign : family.assign rules = .ok numbered)
    (hremoved : ∀ id ∈ removed, family.contains id = true) (hadded : added.Sublist numbered) :
    (Task.act (updateRules family.isSession removed added)).Follows (filing built)
      (fun _ _ => True) () := by
  refine Task.follows_act fun host _ => ⟨(), ⟨?_, ?_⟩, trivial⟩
  · exact (updateRules_all_or_nothing family.isSession removed added host).1.unsupported
  · exact files_updateRules hbuilt hassign hremoved hadded host

/-- What is submitted again after a refusal has gaps, but the same numbers. -/
theorem files_submit (hbuilt : built family = some rules)
    (hassign : family.assign rules = .ok numbered)
    (hremoved : ∀ id ∈ removed, family.contains id = true) (added : List Rule)
    (hadded : added.Sublist numbered) :
    (submit family.isSession removed added).Follows (filing built) (fun _ _ => True) () := by
  induction hlength : added.length using Nat.strongRecOn generalizing added with
  | ind n ih =>
    rw [submit]
    refine (follows_filing_updateRules hbuilt hassign hremoved hadded).bind fun answer _ _ => ?_
    rcases answer with error | _
    · cases error with
      | failed reason => exact Task.follows_pure trivial
      | rejected refused reason =>
        dsimp only
        split
        · exact Task.follows_pure trivial
        · next hsome =>
          have hless := length_keptOf_lt hsome
          have hkept : (keptOf refused added).Sublist numbered := List.filter_sublist.trans hadded
          exact (ih _ (hlength ▸ hless) _ hkept rfl).bind fun rest _ _ => Task.follows_pure trivial
    · exact Task.follows_pure trivial

/-- A replacement updates the rules of the family alone, and none if there are too many. -/
theorem files_replace (hbuilt : built family = some rules) :
    (replace family rules).run.Follows (filing built) (fun result _ =>
      Refuses family rules result ∧ ∀ report, result = .ok report → report.family = family) () := by
  unfold replace
  cases hassign : family.assign rules with
  | error overflow => exact Task.follows_pure ⟨refuses_overflow hassign, by rintro _ ⟨⟩⟩
  | ok numbered =>
    have hfailed : ∀ cause, Refuses family rules (.error cause : Except Failure FamilyReport) ∧
        ∀ report, (.error cause : Except Failure FamilyReport) = .ok report →
          report.family = family := by
      intro cause
      refine ⟨refuses_of_assign hassign _, ?_⟩
      rintro _ ⟨⟩
    change Task.Follows _ _ (ExceptT.run (idsOf family >>= _)) _
    refine (files_idsOf family).except_bind (fun removed _ hremoved => ?_) fun cause _ _ => hfailed cause
    have hsubmit := files_submit hbuilt hassign (hremoved removed rfl) numbered (.refl numbered)
    refine Task.Follows.except_bind hsubmit (fun submission _ _ => ?_) fun cause _ _ => hfailed cause
    refine Task.follows_pure ⟨refuses_of_assign hassign _, ?_⟩
    rintro report ⟨⟩
    rfl

theorem files_install {allowances : List Allowance}
    (hbuilt : built .redirectAllowOnce = some (allowances.map (·.rule))) :
    (AllowanceState.install allowances).run.Follows (filing built)
      (fun result _ => Refuses .redirectAllowOnce (allowances.map (·.rule)) result) () := by
  unfold AllowanceState.install
  dsimp only
  cases hassign : RuleFamily.redirectAllowOnce.assign (allowances.map (·.rule)) with
  | error overflow => exact Task.follows_pure (refuses_overflow hassign)
  | ok numbered =>
    change Task.Follows _ _ (ExceptT.run (idsOf .redirectAllowOnce >>= _)) _
    refine (files_idsOf _).except_bind (fun removed _ hremoved => ?_) fun cause _ _ =>
      refuses_of_assign hassign _
    refine Task.follows_act fun host _ => ⟨(), ⟨?_, ?_⟩, refuses_of_assign hassign _⟩
    · exact (updateRules_all_or_nothing _ removed numbered host).1.unsupported
    · exact files_updateRules hbuilt hassign (hremoved removed rfl) (.refl numbered) host

/-- Steps on a host that does not support these expressions, which leave every rule alone. -/
def reading (unsupported : List String) : Task.Discipline Unit RuleHost where
  may _ host := host.unsupportedRegexes = unsupported
  move _ host _ host' := Idles host host'

end RuleHost

open RuleHost

namespace Fixes

variable {unsupported : List String}

theorem follows_validate (entry : Json) (unsupported : List String) : ∃ found,
    (validate entry).Follows (reading unsupported) (fun result _ => result = found) () := by
  unfold validate
  split
  · exact ⟨_, Task.follows_pure rfl⟩
  split
  · exact ⟨_, Task.follows_pure rfl⟩
  split
  · exact ⟨_, Task.follows_pure rfl⟩
  next rule _ _ _ _ regex _ =>
  have hask : (Task.act (isRegexSupported regex)).Follows (reading unsupported)
      (fun answer _ => answer = !unsupported.contains regex) () := by
    refine Task.follows_act fun host hhost => ⟨(), idles_isRegexSupported regex host, ?_⟩
    rw [isRegexSupported, show host.unsupportedRegexes = unsupported from hhost]
  refine ⟨if !unsupported.contains regex then .ok rule else .error (.unsupportedRegex regex),
    hask.bind fun answer _ hanswer => ?_⟩
  subst hanswer
  split <;> exact Task.follows_pure rfl

theorem follows_validateAll (entries : List Json) (index : Nat) (unsupported : List String) :
    ∃ found, (validateAll index entries).Follows (reading unsupported)
      (fun load _ => load = found) () := by
  induction entries generalizing index with
  | nil => exact ⟨{}, Task.follows_pure rfl⟩
  | cons entry rest ih =>
    obtain ⟨first, hfirst⟩ := follows_validate entry unsupported
    obtain ⟨load, hload⟩ := ih (index + 1)
    refine ⟨match first with
      | .ok rule => { load with rules := rule :: load.rules }
      | .error cause => { load with dropped := ⟨index, cause⟩ :: load.dropped }, ?_⟩
    rw [validateAll]
    refine hfirst.bind fun result _ hresult => hload.bind fun load' _ hload' => ?_
    subst hresult hload'
    cases result <;> exact Task.follows_pure rfl

end Fixes

namespace Synchronizer

/-- What is loaded depends on the source and on the expressions that the host does not support. -/
theorem follows_loadFixes (source : Option FileSource) (unsupported : List String) :
    (loadFixes source).Follows (reading unsupported)
      (fun loaded _ => fixesOf source unsupported = some loaded) () := by
  obtain ⟨found, hfound⟩ : ∃ found, (loadFixes source).Follows (reading unsupported)
      (fun loaded _ => loaded = found) () := by
    unfold loadFixes Fixes.load
    split
    · split
      · exact ⟨_, Task.follows_pure rfl⟩
      · next entries _ =>
        obtain ⟨load, hload⟩ := Fixes.follows_validateAll entries 0 unsupported
        refine ⟨.ok load, hload.bind fun found _ hfound => ?_⟩
        subst hfound
        exact Task.follows_pure rfl
    · exact ⟨_, Task.follows_pure rfl⟩
  -- a run on a host without these expressions tells what it is
  obtain ⟨loaded, host, hrun, hloaded, -⟩ :=
    ends_loadFixes source { unsupportedRegexes := unsupported }
  have hstart : (reading unsupported).may () { unsupportedRegexes := unsupported } := Eq.refl unsupported
  have hend : ∃ stage, loaded = found ∧ (reading unsupported).may stage host :=
    hfound.keeps (fun _ _ h => h)
      (fun _ _ _ _ h (hidles : Idles _ _) => hidles.unsupported.trans h) hstart hrun
  obtain ⟨-, rfl, -⟩ := hend
  exact hfound.mono fun loaded _ h => h ▸ hloaded

end Synchronizer

/-- The synchronizer works with what the call meets. -/
structure SyncCall.Meets (call : SyncCall) (s : Synchronizer) : Prop where
  trackers : s.trackers = call.trackers
  fixes : s.fixes = call.fixes
  unsupported : s.host.unsupportedRegexes = call.unsupportedRegexes

/-- Steps of a call that put the rules built for the families where they belong. -/
def SyncCall.filing (call : SyncCall) (built : RuleFamily → Option (List Rule)) :
    Task.Discipline Unit Synchronizer where
  may _ s := call.Meets s
  move _ s _ s' := call.Meets s' ∧ Files built s.host s'.host

/-- The rules that a synchronization builds for a family. -/
def SyncCall.built (call : SyncCall) (family : RuleFamily) : Option (List Rule) :=
  if family ∈ Synchronizer.families then
    (Synchronizer.fixesOf call.fixes call.unsupportedRegexes).map
      (Synchronizer.rulesFor family call.current call.trackers call.now)
  else none

/-- What a report says of families for which these rules were built: one that was replaced has a number
for each of them, and one that has not was refused for that, unless it is the fixes and failed before.
-/
structure SyncReport.Tells (built : RuleFamily → Option (List Rule)) (report : SyncReport) : Prop where
  replaced : ∀ found ∈ report.families, ∀ rules, built found.family = some rules →
    rules.length ≤ found.family.capacity
  failed : ∀ family cause, ⟨.family family, cause⟩ ∈ report.failures → family ≠ .fixes →
    ∀ rules, built family = some rules → family.capacity < rules.length →
      cause = .overflow ⟨family, rules.length⟩

theorem SyncReport.Tells.fail {built : RuleFamily → Option (List Rule)} {report : SyncReport}
    (h : report.Tells built) {step : SyncStep} {cause : Failure}
    (hcause : ∀ family, step = .family family → family ≠ .fixes → ∀ rules,
      built family = some rules → family.capacity < rules.length →
        cause = .overflow ⟨family, rules.length⟩) : (report.fail step cause).Tells built := by
  refine ⟨h.replaced, fun family cause' hmem hne rules hrules hover => ?_⟩
  rcases List.mem_append.1 hmem with hmem | hmem
  · exact h.failed family cause' hmem hne rules hrules hover
  · cases List.mem_singleton.1 hmem
    exact hcause family rfl hne rules hrules hover

namespace Synchronizer

section Files

variable {α : Type} {call : SyncCall} {built : RuleFamily → Option (List Rule)} {family : RuleFamily}
  {rules : List Rule}

theorem files_read (f : Synchronizer → α) : (Task.read f).Follows (call.filing built)
    (fun a _ => ∃ s, call.Meets s ∧ a = f s) () := fun s hmeets _ =>
  ⟨(), ⟨hmeets, .idle (.refl s.host)⟩, s, hmeets, rfl⟩

theorem files_changeLedger (f : SyncLedger → SyncLedger) :
    (changeLedger f).Follows (call.filing built) (fun _ _ => True) () := fun s hmeets _ =>
  ⟨(), ⟨⟨hmeets.trackers, hmeets.fixes, hmeets.unsupported⟩, .idle (.refl s.host)⟩, trivial⟩

theorem files_onHost {task : Task RuleHost α} {ends : α → Unit → Prop}
    (h : task.Follows (RuleHost.filing built) ends ()) :
    (onHost task).Follows (call.filing built) ends () := by
  refine @Task.Follows.within _ _ _ _ _ _ _ _ _ _ (call.filing built) id _ _ h (fun _ _ _ => trivial) ?_
    fun _ _ hend => hend
  rintro - s - host (hmeets : call.Meets s) ⟨hunsupported, hfiles⟩
  exact ⟨⟨hmeets.trackers, hmeets.fixes, hunsupported.trans hmeets.unsupported⟩, hfiles⟩

theorem files_latestFixes : (latestFixes call.fixes).Follows (call.filing built) (fun result _ =>
    ∀ load, result = .ok load → ∃ fixes,
      fixesOf call.fixes call.unsupportedRegexes = some fixes ∧ load.rules = fixesRules fixes) () := by
  have hload : (onHost (loadFixes call.fixes)).Follows (call.filing built)
      (fun loaded _ => fixesOf call.fixes call.unsupportedRegexes = some loaded) () := by
    refine @Task.Follows.within _ _ _ _ _ _ _ _ _ _ (call.filing built) id _ _
      (follows_loadFixes call.fixes call.unsupportedRegexes) (fun _ _ hmeets => hmeets.unsupported) ?_
      fun _ _ hend => hend
    rintro - s - host (hmeets : call.Meets s) (hidles : Idles _ _)
    exact ⟨⟨hmeets.trackers, hmeets.fixes, hidles.unsupported.trans hmeets.unsupported⟩, .idle hidles⟩
  refine hload.bind fun loaded _ hloaded => ?_
  refine (files_onHost (calm_setStandIn !loaded.isOk).files).bind fun result _ _ => ?_
  rcases result with cause | _
  · exact Task.follows_pure nofun
  · cases loaded with
    | ok load =>
      refine (files_changeLedger _).bind fun _ _ _ => Task.follows_pure ?_
      rintro _ ⟨⟩
      exact ⟨.ok load, hloaded, rfl⟩
    | error cause =>
      refine (files_changeLedger _).bind fun _ _ _ => Task.follows_pure ?_
      rintro _ ⟨⟩
      exact ⟨.error cause, hloaded, rfl⟩

/-- What is known of a family's step: it reports what is so, and a family with too many rules fails for
that. -/
def StepTells (built : RuleFamily → Option (List Rule)) (family : RuleFamily) (rules : List Rule)
    (result : SyncReport × Option Failure) : Prop :=
  result.1.Tells built ∧ ∀ cause, result.2 = some cause → family ≠ .fixes →
    family.capacity < rules.length → cause = .overflow ⟨family, rules.length⟩

theorem files_submitLoaded (hbuilt : built family = some rules) (current : Config)
    (known : TrackerDb) {report : SyncReport} (htells : report.Tells built)
    {loaded : Except Failure Fixes.Load} (hrules : ∀ load, loaded = .ok load → load.rules = rules)
    (hfailed : loaded.isOk = false → family = .fixes) :
    (submitLoaded family current known report loaded).Follows (call.filing built)
      (fun result _ => StepTells built family rules result) () := by
  cases loaded with
  | error cause => exact Task.follows_pure ⟨htells, fun _ _ hne => absurd (hfailed rfl) hne⟩
  | ok load =>
    obtain rfl := hrules load rfl
    unfold submitLoaded
    dsimp only
    have hnotes : (note family current load report).Tells built := by
      refine ⟨?_, ?_⟩
      · rw [note_families]
        exact htells.replaced
      · rw [note_failures]
        exact htells.failed
    generalize note family current load report = noted at hnotes ⊢
    refine (files_onHost (files_replace hbuilt)).bind fun result _ hresult => ?_
    obtain ⟨hrefuses, hfamily⟩ := hresult
    cases result with
    | error cause =>
      refine Task.follows_pure ⟨hnotes, ?_⟩
      rintro _ ⟨⟩ - hover
      cases hrefuses hover
      rfl
    | ok replaced =>
      have hfits : load.rules.length ≤ family.capacity :=
        Nat.not_lt.1 fun hover => by cases hrefuses hover
      have htells : ({ noted with families := noted.families ++ [replaced] } : SyncReport).Tells built := by
        refine ⟨fun found hmem rules hrules => ?_, hnotes.failed⟩
        rcases List.mem_append.1 hmem with hmem | hmem
        · exact hnotes.replaced found hmem rules hrules
        · obtain rfl := List.mem_singleton.1 hmem
          rw [hfamily found rfl] at hrules ⊢
          rw [hbuilt] at hrules
          cases hrules
          exact hfits
      dsimp only
      split
      · exact (files_changeLedger _).bind fun _ _ _ => Task.follows_pure ⟨htells, nofun⟩
      · exact Task.follows_pure ⟨htells, nofun⟩

/-- The step of a family that the configuration is followed with. -/
theorem files_syncFamily (hfamily : family ∈ families) {report : SyncReport}
    (htells : report.Tells call.built) :
    ∃ rules, call.built family = some rules ∧
      (syncFamily family call.current call.now report).Follows (call.filing call.built)
        (fun result _ => StepTells call.built family rules result) () := by
  obtain ⟨fixes, -, -, hfixes, -⟩ :=
    ends_loadFixes call.fixes { unsupportedRegexes := call.unsupportedRegexes }
  have hbuilt : call.built family =
      some (rulesFor family call.current call.trackers call.now fixes) := by
    rw [SyncCall.built, if_pos hfamily]
    exact congrArg (Option.map _) hfixes
  refine ⟨_, hbuilt, ?_⟩
  rw [syncFamily_eq]
  refine (files_read _).bind fun known _ hknown => (files_read _).bind fun source _ hsource => ?_
  obtain ⟨s, hmeets, rfl⟩ := hknown
  obtain ⟨s', hmeets', rfl⟩ := hsource
  rw [hmeets.trackers, hmeets'.fixes]
  split
  · next hkind =>
    refine files_latestFixes.bind fun loaded _ hloaded => ?_
    refine files_submitLoaded hbuilt _ _ htells (fun load hload => ?_) fun _ => hkind
    obtain ⟨found, hfound, hrules⟩ := hloaded load hload
    obtain rfl : fixes = found := Option.some.inj (hfixes.symm.trans hfound)
    rw [hrules, rulesFor, if_pos hkind]
  · next hkind =>
    refine (Task.follows_pure rfl : Task.Follows _ (fun loaded _ => loaded = _) _ ()).bind
      fun loaded _ hloaded => ?_
    subst hloaded
    refine files_submitLoaded hbuilt _ _ htells (fun load hload => ?_) (by rintro ⟨⟩)
    cases hload
    rw [rulesFor, if_neg hkind]

theorem files_syncIfDue (hfamily : family ∈ families) (previous : Option Config)
    (owed : List RuleFamily) {report : SyncReport} (htells : report.Tells call.built) :
    (syncIfDue call.current previous call.now owed report family).Follows (call.filing call.built)
      (fun report _ => report.Tells call.built) () := by
  refine (files_read trackersMoved).bind fun moved _ hmoved => ?_
  obtain ⟨s, -, rfl⟩ := hmoved
  change Task.Follows _ _ (if isDue family call.current previous owed s = true then _ else _) _
  split
  · obtain ⟨rules, hbuilt, hstep⟩ := files_syncFamily hfamily htells
    refine hstep.bind fun result _ hresult => ?_
    obtain ⟨report', failure⟩ := result
    cases failure with
    | none => exact Task.follows_pure hresult.1
    | some cause =>
      refine (files_changeLedger _).bind fun _ _ _ => Task.follows_pure (hresult.1.fail ?_)
      rintro _ ⟨⟩ hne rules' hrules hover
      rw [hbuilt] at hrules
      cases hrules
      exact hresult.2 cause rfl hne hover
  · exact Task.follows_pure htells

theorem files_foldlM {through : List RuleFamily} (hthrough : ∀ family ∈ through, family ∈ families)
    (previous : Option Config) (owed : List RuleFamily) {report : SyncReport}
    (htells : report.Tells call.built) :
    (through.foldlM (syncIfDue call.current previous call.now owed) report).Follows
      (call.filing call.built) (fun report _ => report.Tells call.built) () := by
  induction through generalizing report with
  | nil => exact Task.follows_pure htells
  | cons family through ih =>
    rw [List.foldlM_cons]
    obtain ⟨hfamily, hrest⟩ := List.forall_mem_cons.1 hthrough
    exact (files_syncIfDue hfamily previous owed htells).bind fun report _ htells => ih hrest htells

/-- A synchronization updates the rules of one family at a time, and tells which have too many. -/
theorem files_sync (call : SyncCall) (previous : Option Config) :
    (sync call.current previous call.now).Follows (call.filing call.built)
      (fun report _ => report.Tells call.built) () := by
  have hstart : ({} : SyncReport).Tells call.built := ⟨fun _ => nofun, fun _ _ => nofun⟩
  have htake : (Task.act fun s : Synchronizer => (s.ledger, s.cleared)).Follows
      (call.filing call.built) (fun _ _ => True) () := fun s hmeets _ =>
    ⟨(), ⟨⟨hmeets.trackers, hmeets.fixes, hmeets.unsupported⟩, .idle (.refl s.host)⟩, trivial⟩
  have hrulesets : ∀ owed, (syncRulesetsIfDue call.current previous owed).Follows
      (call.filing call.built) (fun report _ => report.Tells call.built) () := by
    intro owed
    unfold syncRulesetsIfDue
    split
    · refine (files_onHost (calm_syncRulesets call.current).files).bind fun result _ _ => ?_
      cases result with
      | ok delta => exact Task.follows_pure ⟨hstart.replaced, hstart.failed⟩
      | error cause =>
        exact (files_changeLedger _).bind fun _ _ _ => Task.follows_pure (hstart.fail nofun)
    · exact Task.follows_pure hstart
  rw [sync_eq]
  refine htake.bind fun owed _ _ => (hrulesets owed.owedRulesets).bind fun report _ htells => ?_
  exact files_foldlM (fun _ hmem => hmem) previous owed.owedFamilies htells

/-- A rebuild updates the exceptions alone, if it updates anything. -/
theorem files_onTrackersChanged
    (hbuilt : built .exceptions = some (Exceptions.rules call.current call.trackers)) :
    (onTrackersChanged call.current).Follows (call.filing built) (fun result _ => result = .ok none ∨
      Refuses .exceptions (Exceptions.rules call.current call.trackers) result) () := by
  refine (files_read _).bind fun isDue _ _ => ?_
  cases isDue with
  | false => exact Task.follows_pure (.inl rfl)
  | true =>
    refine (files_read _).bind fun known _ hknown => ?_
    obtain ⟨s, hmeets, rfl⟩ := hknown
    rw [hmeets.trackers]
    refine (files_onHost (files_replace hbuilt)).bind fun result _ hresult => ?_
    cases result with
    | ok report =>
      refine (files_changeLedger _).bind fun _ _ _ => Task.follows_pure (.inr fun hover => ?_)
      cases hresult.1 hover
    | error cause =>
      refine (files_changeLedger _).bind fun _ _ _ => Task.follows_pure (.inr fun hover => ?_)
      cases hresult.1 hover
      rfl

end Files

end Synchronizer

namespace AllowanceState

/-- Steps of a call that lets the user go on or forgets a tab: the stage is what is allowed then. -/
def filing (built : RuleFamily → Option (List Rule)) :
    Task.Discipline (List Allowance) AllowanceState where
  may allowances s := s.allowances = allowances ∧ ∃ host, s.host = some host
  move _ s allowances s' := s'.allowances = allowances ∧
    ∃ host host', s.host = some host ∧ s'.host = some host' ∧ Files built host host'

theorem files_change {built : RuleFamily → Option (List Rule)} {f : List Allowance → List Allowance}
    {allowances : List Allowance}
    (hbuilt : built .redirectAllowOnce = some ((f allowances).map (·.rule))) :
    (change f).Follows (filing built) (fun result _ => result = .ok () ∨
      Refuses .redirectAllowOnce ((f allowances).map (·.rule)) result) allowances := by
  have hchange : (Task.act fun s : AllowanceState =>
      (f s.allowances != s.allowances, { s with allowances := f s.allowances })).Follows
        (filing built) (fun _ stage => stage = f allowances) allowances := by
    rintro s ⟨rfl, host, hhost⟩ -
    exact ⟨_, ⟨rfl, host, host, hhost, hhost, .idle (.refl host)⟩, rfl⟩
  refine hchange.bind fun changed stage hstage => ?_
  subst hstage
  cases changed with
  | false => exact Task.follows_pure (.inl rfl)
  | true =>
    have hread : (Task.read id).Follows (filing built) (fun state stage => stage = f allowances ∧
        state.allowances = f allowances ∧ ∃ host, state.host = some host) (f allowances) := by
      rintro s ⟨hallowances, host, hhost⟩ -
      exact ⟨_, ⟨hallowances, host, host, hhost, hhost, .idle (.refl host)⟩, rfl, hallowances, host,
        hhost⟩
    refine hread.bind fun state stage hstate => ?_
    obtain ⟨rfl, hallowances, host, hhost⟩ := hstate
    obtain ⟨known, found⟩ := state
    cases hhost
    cases hallowances
    refine @Task.Follows.within _ _ _ _ _ _ _ _ _ _ (filing built) (fun _ => f allowances) _ _
      (files_install hbuilt) (fun _ _ _ => trivial) ?_ fun _ _ hrefuses => .inr hrefuses
    rintro - s - next ⟨hallowances, current, hcurrent⟩ ⟨-, hfiles⟩
    refine ⟨hallowances, current, next, hcurrent, rfl, ?_⟩
    rw [hcurrent] at hfiles
    exact hfiles

end AllowanceState

end ContentFilter
