import ContentFilter.Proofs.Rule.Filing
import ContentFilter.Proofs.Rule.FixesInForce

/-! Which rule sets the host is asked to turn on: those of the configured lists that it ships, and the
fixes whenever they have to stand in, whether the host ships them or not. -/

namespace ContentFilter

/-- The rule sets that a call asks to have turned on. -/
def HostCall.wanted : HostCall → List String
  | .updateEnabledRulesets enable _ => enable
  | _ => []

namespace RuleHost

variable {α : Type} {a b c host host' : RuleHost} {ids ids' available allowed : List String}

/-- Between the two the host was asked to turn on these rule sets, and no other came on. -/
structure Asks (host : RuleHost) (ids : List String) (host' : RuleHost) : Prop where
  available : host'.available = host.available
  log : ∃ calls, host'.log = calls ++ host.log ∧ calls.flatMap HostCall.wanted = ids
  enabled : ∀ id ∈ host'.enabled.keys, id ∈ ids ∨ id ∈ host.enabled.keys

theorem Asks.refl (host : RuleHost) : Asks host [] host :=
  ⟨rfl, ⟨[], rfl, rfl⟩, fun _ => .inr⟩

theorem Asks.trans (hab : Asks a ids b) (hbc : Asks b ids' c) : Asks a (ids' ++ ids) c where
  available := hbc.available.trans hab.available
  log := by
    obtain ⟨calls, hlog, rfl⟩ := hab.log
    obtain ⟨calls', hlog', rfl⟩ := hbc.log
    exact ⟨calls' ++ calls, by rw [hlog', hlog, List.append_assoc], List.flatMap_append⟩
  enabled id hid := by
    rw [List.mem_append, or_assoc]
    exact (hbc.enabled id hid).imp_right (hab.enabled id)

/-- A call that turns nothing on, answered or refused. -/
theorem Asks.of_call {call : HostCall} (hcall : call.wanted = []) (hshelf : SameShelf host host')
    (hlog : host'.log = call :: host.log) : Asks host [] host' where
  available := hshelf.available
  log := ⟨[call], hlog, by rw [List.flatMap_singleton, hcall]⟩
  enabled id hid := .inr (hshelf.enabled ▸ hid)

/-- A question is put on record and changes nothing else. -/
theorem asks_serve {question : HostCall} (hquestion : question.wanted = []) (value : RuleHost → α)
    (host : RuleHost) :
    Asks host [] (serve question (fun host => (.ok (value host), host)) host).2 := by
  unfold serve
  dsimp only
  split <;> exact .of_call hquestion ⟨rfl, rfl, rfl⟩ rfl

/-- A question that is not refused is answered with what the host has. -/
theorem ends_question_asks {question : HostCall} (hquestion : question.wanted = [])
    (value : RuleHost → α) (host : RuleHost)
    (hvalue : ∀ host', Same host host' → value host' = value host) :
    (call (serve question fun host => (.ok (value host), host))).run.Ends host fun result host' =>
      Asks host [] host' ∧ match result with
        | .ok x => host.refuse host.log.length question = none ∧ x = value host
        | .error _ => host.refuse host.log.length question ≠ none := by
  refine Task.ends_act ⟨asks_serve hquestion value host, ?_⟩
  unfold serve
  cases hrefusal : host.refuse host.log.length question with
  | some error => exact Option.some_ne_none error
  | none => exact ⟨rfl, hvalue _ ⟨⟨rfl, rfl, rfl⟩, fun _ => rfl⟩⟩

theorem asks_updateEnabledRulesets (enable disable : List String) (host : RuleHost) :
    Asks host enable (updateEnabledRulesets enable disable host).2 := by
  have hwanted : [HostCall.updateEnabledRulesets enable disable].flatMap HostCall.wanted = enable :=
    List.flatMap_singleton ..
  unfold updateEnabledRulesets serve
  dsimp only
  split
  · exact ⟨rfl, ⟨[_], rfl, hwanted⟩, fun _ => .inr⟩
  · refine ⟨rfl, ⟨[_], rfl, hwanted⟩, fun id hid => ?_⟩
    dsimp only at hid
    rw [KeyMap.mem_keys_foldl_insert, KeyMap.mem_keys_foldl_erase] at hid
    exact hid.imp_right And.left

/-- Nothing is asked for but some of these rule sets. -/
def Spares (allowed : List String) (host host' : RuleHost) : Prop :=
  ∃ ids, Asks host ids host' ∧ ids ⊆ allowed

theorem Asks.spares (h : Asks host [] host') (allowed : List String) : Spares allowed host host' :=
  ⟨[], h, List.nil_subset allowed⟩

theorem Spares.trans (hab : Spares allowed a b) (hbc : Spares allowed b c) : Spares allowed a c := by
  obtain ⟨ids, hasks, hids⟩ := hab
  obtain ⟨ids', hasks', hids'⟩ := hbc
  exact ⟨ids' ++ ids, hasks.trans hasks', List.append_subset.2 ⟨hids', hids⟩⟩

/-- Steps that ask a host which ships the one list of rule sets for those of the other alone. -/
def sparing {σ : Type} (view : σ → RuleHost) (available allowed : List String) :
    Task.Discipline Unit σ where
  may _ s := (view s).available = available
  move _ s _ s' := Spares allowed (view s) (view s')

/-- None of the steps asks the host for another rule set. -/
def Sparing {σ : Type} (view : σ → RuleHost) (available allowed : List String) (task : Task σ α) : Prop :=
  task.Follows (sparing view available allowed) (fun _ _ => True) ()

section Sparing

variable {σ β : Type} {view : σ → RuleHost}

theorem sparing_pure (x : α) : Sparing view available allowed (pure x) := trivial

theorem Sparing.bind {task : Task σ α} {f : α → Task σ β} (h : Sparing view available allowed task)
    (hf : ∀ a, Sparing view available allowed (f a)) : Sparing view available allowed (task >>= f) :=
  Task.Follows.bind h fun a _ _ => hf a

theorem Sparing.except_bind {task : ExceptT Failure (Task σ) α}
    {f : α → ExceptT Failure (Task σ) β} (h : Sparing view available allowed task.run)
    (hf : ∀ a, Sparing view available allowed (f a).run) :
    Sparing view available allowed (task >>= f).run :=
  Task.Follows.except_bind h (fun a _ _ => hf a) fun _ _ _ => trivial

theorem sparing_ite {p : Prop} [Decidable p] {task other : Task σ α}
    (h : Sparing view available allowed task) (h' : Sparing view available allowed other) :
    Sparing view available allowed (if p then task else other) := by
  split
  · exact h
  · exact h'

/-- A task that runs alone has asked the host for no other rule set when it comes to its end. -/
theorem Sparing.ends {task : Task σ α} {s : σ} {known : α → σ → Prop}
    (h : Sparing view (view s).available allowed task) (hends : task.Ends s known) :
    task.Ends s fun a t => known a t ∧ Spares allowed (view s) (view t) := by
  have hmove : ∀ (φ : Unit) a (φ' : Unit) b, Spares allowed (view s) (view a) →
      (sparing view (view s).available allowed).move φ a φ' b → Spares allowed (view s) (view b) :=
    fun _ _ _ _ ha hb => ha.trans hb
  refine (hends.and_follows h (fun _ _ hspares => ?_) hmove ((Asks.refl _).spares allowed)).mono ?_
  · obtain ⟨ids, hasks, -⟩ := hspares
    exact hasks.available
  · rintro a t ⟨hknown, -, -, hspares⟩
    exact ⟨hknown, hspares⟩

end Sparing

theorem sparing_question {question : HostCall} (hquestion : question.wanted = [])
    (value : RuleHost → α) :
    (call (serve question fun host => (.ok (value host), host))).run.Follows (sparing id available allowed)
      (fun result _ => ∀ x, result = .ok x → ∃ host, host.available = available ∧ value host = x)
      () := by
  refine Task.follows_act fun host hhost => ⟨(), (asks_serve hquestion value host).spares allowed, ?_⟩
  unfold serve
  dsimp only
  split
  · nofun
  · intro x hx
    exact ⟨{ host with log := question :: host.log, calls := host.calls + 1 }, hhost, Except.ok.inj hx⟩

theorem sparing_submit (isSession : Bool) (removed : List Nat) (rules : List Rule) :
    Sparing id available allowed (submit isSession removed rules) := by
  induction hlength : rules.length using Nat.strongRecOn generalizing rules with
  | ind n ih =>
    have hupdate : Sparing id available allowed (Task.act (updateRules isSession removed rules)) := by
      refine Task.follows_act fun host _ => ⟨(), Asks.spares ?_ allowed, trivial⟩
      have hlog := log_updateRules isSession removed rules host
      exact .of_call rfl (updateRules_all_or_nothing isSession removed rules host).1 hlog
    rw [submit]
    refine hupdate.bind fun answer => ?_
    rcases answer with error | _
    · cases error with
      | failed reason => exact sparing_pure _
      | rejected refused reason =>
        dsimp only
        split
        · exact sparing_pure _
        · next hsome =>
          have hless := length_keptOf_lt hsome
          exact (ih _ (hlength ▸ hless) _ rfl).bind fun rest => sparing_pure _
    · exact sparing_pure _

theorem sparing_replace (family : RuleFamily) (rules : List Rule) :
    Sparing id available allowed (replace family rules).run := by
  unfold replace
  cases family.assign rules with
  | error overflow => exact sparing_pure _
  | ok numbered =>
    have hids : Sparing id available allowed (idsOf family).run :=
      (sparing_question rfl _).except_bind (fun rules _ _ => trivial) fun _ _ _ => trivial
    refine hids.except_bind fun removed => ?_
    exact Sparing.except_bind (sparing_submit family.isSession removed numbered) fun _ => sparing_pure _

theorem ends_replace_asks (family : RuleFamily) (rules : List Rule) (host : RuleHost) :
    (replace family rules).run.Ends host fun _ host' => Asks host [] host' := by
  have hsparing : Sparing id host.available [] (replace family rules).run := sparing_replace family rules
  refine (hsparing.ends (ends_replace family rules host)).mono fun result a ha => ?_
  obtain ⟨-, ids, hasks, hids⟩ := ha
  rw [List.subset_nil.1 hids] at hasks
  exact hasks

end RuleHost

namespace Synchronizer

open RuleHost

variable {α : Type} {available allowed : List String}

/-- The shipped rule sets other than the fixes. -/
def shippedLists (available : List String) : List String := available.filter (· != Fixes.ruleset)

/-- Only configured lists that are shipped are turned on, and the fixes are no list. -/
theorem sparing_syncRulesets (config : Config) :
    Sparing id available (shippedLists available) (syncRulesets config).run := by
  refine (sparing_question rfl (·.available)).except_bind (fun found _ hfound => ?_) fun _ _ _ => trivial
  obtain ⟨host, hhost, rfl⟩ := hfound found rfl
  refine (sparing_question rfl _).except_bind (fun enabled _ _ => ?_) fun _ _ _ => trivial
  refine sparing_ite (sparing_pure _) ?_
  have hupdate : Sparing id available (shippedLists available)
      (call (updateEnabledRulesets (rulesetDelta config host.available enabled).enabled
        (rulesetDelta config host.available enabled).disabled)).run := by
    refine Task.follows_act fun host' _ => ⟨(), ?_, trivial⟩
    refine ⟨_, asks_updateEnabledRulesets _ _ host', fun id hid => ?_⟩
    obtain ⟨⟨hconfigured, hshipped⟩, -⟩ := mem_rulesetDelta_enabled.1 hid
    rw [shippedLists, List.mem_filter, bne_iff_ne, ← hhost]
    refine ⟨hshipped, ?_⟩
    rintro rfl
    exact ListName.fixes_not_mem_enabled config hconfigured
  exact hupdate.except_bind fun _ => sparing_pure _

theorem sparing_act {f : Synchronizer → α × Synchronizer} (h : ∀ s, (f s).2.host = s.host) :
    Sparing (·.host) available allowed (Task.act f) := by
  refine Task.follows_act fun s _ => ⟨(), ?_, trivial⟩
  show Spares allowed s.host (f s).2.host
  rw [h]
  exact (Asks.refl s.host).spares allowed

theorem sparing_onHost {task : Task RuleHost α} (h : Sparing id available allowed task) :
    Sparing (·.host) available allowed (onHost task) :=
  @Task.Follows.within _ _ _ _ _ _ _ _ _ _ (sparing _ available allowed) id _ _ h (fun _ _ hs => hs)
    (fun _ _ _ _ _ hmove => hmove) fun _ _ _ => trivial

theorem sparing_syncRulesetsIfDue (current : Config) (previous : Option Config) (owed : Bool) :
    Sparing (·.host) available (shippedLists available) (syncRulesetsIfDue current previous owed) := by
  refine sparing_ite ((sparing_onHost (sparing_syncRulesets current)).bind fun result => ?_)
    (sparing_pure _)
  cases result with
  | ok delta => exact sparing_pure _
  | error cause => exact (sparing_act fun _ => rfl).bind fun _ => sparing_pure _

theorem sparing_submitLoaded (family : RuleFamily) (config : Config) (trackers : TrackerDb)
    (report : SyncReport) (loaded : Except Failure Fixes.Load) :
    Sparing (·.host) available allowed (submitLoaded family config trackers report loaded) := by
  cases loaded with
  | error cause => exact sparing_pure _
  | ok load =>
    refine (sparing_onHost (sparing_replace family load.rules)).bind fun result => ?_
    cases result with
    | error cause => exact sparing_pure _
    | ok replaced =>
      exact sparing_ite ((sparing_act fun _ => rfl).bind fun _ => sparing_pure _) (sparing_pure _)

theorem sparing_syncIfDue {family : RuleFamily} (hne : family ≠ .fixes) (current : Config)
    (previous : Option Config) (now : Nat) (owed : List RuleFamily) (report : SyncReport) :
    Sparing (·.host) available allowed (syncIfDue current previous now owed report family) := by
  have hfamily : Sparing (·.host) available allowed (syncFamily family current now report) := by
    rw [syncFamily_eq]
    refine (sparing_act fun _ => rfl).bind fun trackers => (sparing_act fun _ => rfl).bind fun source => ?_
    rw [if_neg hne]
    exact (sparing_pure _).bind fun loaded => sparing_submitLoaded family current trackers report loaded
  refine (sparing_act fun _ => rfl).bind fun moved => ?_
  refine sparing_ite (hfamily.bind fun result => ?_) (sparing_pure _)
  obtain ⟨report', failure⟩ := result
  cases failure with
  | none => exact sparing_pure _
  | some cause => exact (sparing_act fun _ => rfl).bind fun _ => sparing_pure _

/-- What a synchronization that takes over a ledger does before it comes to the fixes, which are last. -/
def syncUntilFixes (current : Config) (previous : Option Config) (now : Nat) (owed : SyncLedger) :
    Task Synchronizer SyncReport := do
  let report ← syncRulesetsIfDue current previous owed.owedRulesets
  families.dropLast.foldlM (syncIfDue current previous now owed.owedFamilies) report

theorem sync_eq_untilFixes (current : Config) (previous : Option Config) (now : Nat) :
    sync current previous now = (do
      let owed ← Task.act fun s => (s.ledger, s.cleared)
      let report ← syncUntilFixes current previous now owed
      syncIfDue current previous now owed.owedFamilies report .fixes) := by
  have hlast : families = families.dropLast ++ [.fixes] := rfl
  rw [sync_eq, hlast]
  simp only [syncUntilFixes, List.foldlM_append, List.foldlM_cons, List.foldlM_nil, bind_assoc,
    bind_pure]

theorem sparing_syncUntilFixes (current : Config) (previous : Option Config) (now : Nat)
    (owed : SyncLedger) :
    Sparing (·.host) available (shippedLists available) (syncUntilFixes current previous now owed) := by
  have hfamilies : ∀ (through : List RuleFamily) (report : SyncReport), .fixes ∉ through →
      Sparing (·.host) available (shippedLists available)
        (through.foldlM (syncIfDue current previous now owed.owedFamilies) report) := by
    intro through
    induction through with
    | nil => exact fun report _ => sparing_pure _
    | cons family through ih =>
      intro report hnot
      rw [List.foldlM_cons]
      have hne : family ≠ .fixes := fun h => hnot (h ▸ List.mem_cons_self)
      refine (sparing_syncIfDue hne current previous now _ report).bind fun report' => ?_
      exact ih report' fun hmem => hnot (List.mem_cons_of_mem family hmem)
  refine (sparing_syncRulesetsIfDue current previous owed.owedRulesets).bind fun report => ?_
  exact hfamilies families.dropLast report (by decide)

/-- The fixes are to be brought in line, none are to be had, and the host says that the shipped ones are
off. -/
structure FallsBack (current : Config) (previous : Option Config) (owed : List RuleFamily)
    (s : Synchronizer) : Prop where
  due : isDue .fixes current previous owed s = true
  unavailable : ∃ cause, fixesOf s.fixes s.host.unsupportedRegexes = some (.error cause)
  isOff : Fixes.ruleset ∉ s.host.enabled.keys
  answered : s.host.refuse s.host.log.length .enabledRulesets = none

/-- The host was asked for the fixes and nothing else if they had to fall back, and else for nothing. -/
def AsksForFixes (fallsBack : Prop) (host host' : RuleHost) : Prop :=
  fallsBack ∧ Asks host [Fixes.ruleset] host' ∨ ¬fallsBack ∧ Asks host [] host'

theorem AsksForFixes.of_asks {p q : Prop} {a b c : RuleHost} (hbc : AsksForFixes p b c)
    (hab : Asks a [] b) (hpq : p ↔ q) : AsksForFixes q a c :=
  hbc.imp (fun h => ⟨hpq.1 h.1, hab.trans h.2⟩) fun h => ⟨fun hq => h.1 (hpq.2 hq), hab.trans h.2⟩

theorem AsksForFixes.trans {fallsBack : Prop} {a b c : RuleHost} (hab : AsksForFixes fallsBack a b)
    (hbc : Asks b [] c) : AsksForFixes fallsBack a c :=
  hab.imp (fun h => ⟨h.1, h.2.trans hbc⟩) fun h => ⟨h.1, h.2.trans hbc⟩

theorem ends_setStandIn_asks (wanted : Bool) (host : RuleHost) :
    (setStandIn wanted).run.Ends host fun _ host' =>
      AsksForFixes (wanted = true ∧ Fixes.ruleset ∉ host.enabled.keys ∧
        host.refuse host.log.length .enabledRulesets = none) host host' := by
  refine Task.ends_except_bind ((ends_question_asks rfl (·.enabled.keys) host
    fun _ h => by rw [h.enabled]).mono fun result a ha => ?_)
  obtain ⟨hasks, hresult⟩ := ha
  cases result with
  | error cause => exact .inr ⟨fun h => hresult h.2.2, hasks⟩
  | ok enabled =>
    obtain ⟨hanswered, rfl⟩ := hresult
    dsimp only
    split
    · next hright =>
      refine Task.ends_pure (.inr ⟨fun h => h.2.1 ?_, hasks⟩)
      rw [beq_iff_eq, h.1, List.contains_iff_mem] at hright
      exact hright
    · next hwrong =>
      cases wanted with
      | true =>
        have hoff : Fixes.ruleset ∉ host.enabled.keys := by simpa using hwrong
        refine Task.ends_act (.inl ⟨⟨rfl, hoff, hanswered⟩, ?_⟩)
        exact hasks.trans (asks_updateEnabledRulesets [Fixes.ruleset] [] a)
      | false =>
        refine Task.ends_act (.inr ⟨fun h => Bool.noConfusion h.1, ?_⟩)
        exact hasks.trans (asks_updateEnabledRulesets [] [Fixes.ruleset] a)

/-- Steps that are counted and leave no other trace. -/
def silent : Task.Discipline Unit RuleHost where
  may _ _ := True
  move _ host _ host' := ∃ n, host' = { host with calls := n }

/-- Nothing is asked for while the fixes are loaded. -/
theorem ends_loadFixes_silent (source : Option FileSource) (host : RuleHost) :
    (loadFixes source).Ends host fun loaded host' =>
      fixesOf source host.unsupportedRegexes = some loaded ∧ ∃ n, host' = { host with calls := n } := by
  have hask : ∀ regex host, silent.may () host →
      silent.move () host () (isRegexSupported regex host).2 := fun _ host _ => ⟨host.calls + 1, rfl⟩
  have hsilent := follows_loadFixes_of hask source
  have hmove : ∀ (φ : Unit) a (φ' : Unit) b, (∃ n, a = { host with calls := n }) →
      silent.move φ a φ' b → ∃ n, b = { host with calls := n } := by
    rintro - _ - _ ⟨n, rfl⟩ ⟨m, rfl⟩
    exact ⟨m, rfl⟩
  refine ((ends_loadFixes source host).and_follows hsilent (fun _ _ _ => trivial) hmove
    ⟨host.calls, rfl⟩).mono ?_
  rintro loaded a ⟨⟨hloaded, -⟩, -, -, hkept⟩
  exact ⟨hloaded, hkept⟩

/-- The shipped fixes are asked for if no others are to be had and the host says that they are off. -/
theorem ends_latestFixes_asks (s : Synchronizer) :
    (latestFixes s.fixes).Ends s fun _ s' => AsksForFixes
      ((∃ cause, fixesOf s.fixes s.host.unsupportedRegexes = some (.error cause)) ∧
        Fixes.ruleset ∉ s.host.enabled.keys ∧ s.host.refuse s.host.log.length .enabledRulesets = none)
      s.host s'.host := by
  refine Task.ends_bind (ends_onHost ((ends_loadFixes_silent s.fixes s.host).mono ?_))
  rintro loaded _ ⟨hloaded, n, rfl⟩
  have hfailed : (!loaded.isOk) = true ↔
      ∃ cause, fixesOf s.fixes s.host.unsupportedRegexes = some (.error cause) := by
    rw [hloaded]
    cases loaded <;> simp [Except.isOk, Except.toBool]
  refine Task.ends_bind (ends_onHost ((ends_setStandIn_asks (!loaded.isOk) _).mono fun result a ha => ?_))
  have hsilent : Asks s.host [] { s.host with calls := n } := ⟨rfl, ⟨[], rfl, rfl⟩, fun _ => .inr⟩
  have hasks := ha.of_asks hsilent (and_congr_left' hfailed)
  cases result with
  | error cause => exact Task.ends_pure hasks
  | ok _ =>
    cases loaded with
    | ok load => exact Task.ends_bind (Task.ends_change (Task.ends_pure hasks))
    | error cause => exact Task.ends_bind (Task.ends_change (Task.ends_pure hasks))

/-- Replacing rules turns no rule set on. -/
theorem ends_submitLoaded_asks (family : RuleFamily) (config : Config) (trackers : TrackerDb)
    (report : SyncReport) (loaded : Except Failure Fixes.Load) (s : Synchronizer) :
    (submitLoaded family config trackers report loaded).Ends s fun _ s' => Asks s.host [] s'.host := by
  cases loaded with
  | error cause => exact Task.ends_pure (.refl s.host)
  | ok load =>
    refine Task.ends_bind (ends_onHost ((ends_replace_asks family load.rules s.host).mono ?_))
    intro result host hasks
    cases result with
    | error cause => exact Task.ends_pure hasks
    | ok replaced =>
      dsimp only
      split
      · exact Task.ends_bind (Task.ends_change (Task.ends_pure hasks))
      · exact Task.ends_pure hasks

/-- The step of the fixes asks for the shipped ones if it has to fall back on them. -/
theorem ends_syncIfDue_fixes (current : Config) (previous : Option Config) (now : Nat)
    (owed : List RuleFamily) (report : SyncReport) (s : Synchronizer) :
    (syncIfDue current previous now owed report .fixes).Ends s fun _ s' =>
      AsksForFixes (FallsBack current previous owed s) s.host s'.host := by
  refine Task.ends_bind (Task.ends_read ?_)
  show Task.Ends (if isDue .fixes current previous owed s = true then _ else _) s _
  split
  · next hdue =>
    have hfallsBack : FallsBack current previous owed s ↔
        (∃ cause, fixesOf s.fixes s.host.unsupportedRegexes = some (.error cause)) ∧
          Fixes.ruleset ∉ s.host.enabled.keys ∧
            s.host.refuse s.host.log.length .enabledRulesets = none :=
      ⟨fun h => ⟨h.unavailable, h.isOff, h.answered⟩, fun h => ⟨hdue, h.1, h.2.1, h.2.2⟩⟩
    have hfamily : (syncFamily .fixes current now report).Ends s fun _ s' =>
        AsksForFixes (FallsBack current previous owed s) s.host s'.host := by
      rw [syncFamily_eq, hfallsBack]
      refine Task.ends_bind (Task.ends_read (Task.ends_bind (Task.ends_read ?_)))
      rw [if_pos rfl]
      refine Task.ends_bind ((ends_latestFixes_asks s).mono fun loaded a ha => ?_)
      exact (ends_submitLoaded_asks _ _ _ _ loaded a).mono fun _ b hb => ha.trans hb
    refine Task.ends_bind (hfamily.mono fun result a ha => ?_)
    obtain ⟨report', failure⟩ := result
    cases failure with
    | none => exact Task.ends_pure ha
    | some cause => exact Task.ends_bind (Task.ends_change (Task.ends_pure ha))
  · next hnot => exact Task.ends_pure (.inr ⟨fun h => hnot h.due, .refl s.host⟩)

end Synchronizer

namespace FixesRun

open RuleHost Synchronizer

/-- The synchronizer when a synchronization comes to the fixes. -/
def atFixes (run : FixesRun) (call : FixesCall) : Synchronizer :=
  let start := call.arrange run.synchronizer
  ((syncUntilFixes call.current call.previous call.now start.ledger).run? start.cleared).2

/-- The synchronization has to fall back on the shipped fixes. -/
def FallsBack (run : FixesRun) (call : FixesCall) : Prop :=
  Synchronizer.FallsBack call.current call.previous run.synchronizer.ledger.owedFamilies
    (run.atFixes call)

/-- None of these synchronizations has to fall back on the shipped fixes. -/
def NeverFallsBack (run : FixesRun) : List FixesCall → Prop
  | [] => True
  | call :: later =>
    ¬run.FallsBack call ∧ ∀ after, run.next call = some after → after.NeverFallsBack later

/-- A synchronization asks for shipped rule sets, and for the fixes if it falls back on them. -/
theorem exists_next_asks (run : FixesRun) (call : FixesCall) : ∃ after ids,
    run.next call = some after ∧ Asks run.synchronizer.host ids after.synchronizer.host ∧
      (∀ id ∈ ids, id ∈ run.synchronizer.host.available ∨ id = Fixes.ruleset) ∧
      (Fixes.ruleset ∈ ids ↔ run.FallsBack call) := by
  obtain ⟨fixes, -, -, hfixes, -⟩ :=
    ends_loadFixes call.fixes { unsupportedRegexes := call.unsupportedRegexes }
  obtain ⟨report, s', hrun, -⟩ :=
    @ends_sync (call.arrange run.synchronizer) fixes hfixes call.current call.previous call.now
  have hsync : (sync call.current call.previous call.now).Ends (call.arrange run.synchronizer)
      fun _ t => t = s' := ⟨report, s', hrun, rfl⟩
  rw [sync_eq_untilFixes] at hsync
  -- what comes before the fixes asks for lists only, so the fixes are asked for where they fall back
  obtain ⟨before, s, huntil, hrest, lists, hlists, hshipped⟩ :=
    Sparing.ends (sparing_syncUntilFixes call.current call.previous call.now _)
      (hsync.of_bind.of_run? rfl).of_bind
  have hat : run.atFixes call = s := by rw [atFixes, huntil]
  have hlists : Asks run.synchronizer.host lists s.host :=
    ⟨hlists.available, hlists.log, hlists.enabled⟩
  have hshipped : ∀ id ∈ lists, id ∈ run.synchronizer.host.available ∧ id ≠ Fixes.ruleset := by
    intro id hid
    have hmem := hshipped hid
    rw [shippedLists, List.mem_filter, bne_iff_ne] at hmem
    exact hmem
  obtain ⟨last, s'', hlast, hasked⟩ := ends_syncIfDue_fixes call.current call.previous call.now
    run.synchronizer.ledger.owedFamilies before s
  obtain rfl : s'' = s' := hrest.of_run? hlast
  rw [next, hrun, FallsBack, hat]
  rcases hasked with ⟨hfalls, hasks⟩ | ⟨hnot, hasks⟩
  · refine ⟨_, Fixes.ruleset :: lists, rfl, hlists.trans hasks, fun id hid => ?_, ?_⟩
    · rcases List.mem_cons.1 hid with rfl | hid
      · exact .inr rfl
      · exact .inl (hshipped id hid).1
    · exact iff_of_true List.mem_cons_self hfalls
  · refine ⟨_, lists, rfl, hlists.trans hasks, fun id hid => .inl (hshipped id hid).1, ?_⟩
    exact iff_of_false (fun hmem => (hshipped _ hmem).2 rfl) hnot

/-- What a run asks for: rule sets that are shipped and, if a synchronization falls back on them, the
fixes. -/
theorem exists_run_asks (run : FixesRun) (calls : List FixesCall) : ∃ last ids,
    calls.foldlM next run = some last ∧ Asks run.synchronizer.host ids last.synchronizer.host ∧
      (∀ id ∈ ids, id ∈ run.synchronizer.host.available ∨ id = Fixes.ruleset) ∧
      (Fixes.ruleset ∉ ids ↔ run.NeverFallsBack calls) := by
  induction calls generalizing run with
  | nil => exact ⟨run, [], rfl, .refl _, List.forall_mem_nil _, iff_of_true List.not_mem_nil trivial⟩
  | cons call calls ih =>
    obtain ⟨after, ids, hnext, hasks, hids, hfixes⟩ := run.exists_next_asks call
    obtain ⟨last, ids', hrun, hasks', hids', hfixes'⟩ := ih after
    rw [hasks.available] at hids'
    refine ⟨last, ids' ++ ids, ?_, hasks.trans hasks', List.forall_mem_append.2 ⟨hids', hids⟩, ?_⟩
    · rw [List.foldlM_cons, hnext]
      exact hrun
    · simp only [NeverFallsBack, hnext, Option.some.injEq, forall_eq', List.mem_append, not_or, hfixes,
        hfixes', and_comm]

/-- Every rule set that the host is asked to turn on is one that it ships, if and only if it ships the fixes
or no synchronization falls back on them. No other rule set comes on. -/
theorem asks_only_shipped_iff (host : RuleHost) (calls : List FixesCall) : ∃ last ids,
    calls.foldlM next (start host) = some last ∧ Asks host ids last.synchronizer.host ∧
      (∀ id ∈ ids, id ∈ host.available ∨ id = Fixes.ruleset) ∧
      ((∀ id ∈ ids, id ∈ host.available) ↔
        Fixes.ruleset ∈ host.available ∨ (start host).NeverFallsBack calls) := by
  obtain ⟨last, ids, hrun, hasks, hids, hfixes⟩ := (start host).exists_run_asks calls
  refine ⟨last, ids, hrun, hasks, hids, ?_⟩
  rw [← hfixes]
  constructor
  · intro hall
    by_cases hmem : Fixes.ruleset ∈ ids
    · exact .inl (hall _ hmem)
    · exact .inr hmem
  · rintro (hshipped | hnot) id hid
    · rcases hids id hid with hid | rfl
      · exact hid
      · exact hshipped
    · refine (hids id hid).resolve_right ?_
      rintro rfl
      exact hnot hid

/-- A host that ships no rule set is asked for the fixes when there is no document of them. -/
theorem asks_for_unshipped_fixes : ∃ last,
    [fixesCall none false].foldlM next (start {}) = some last ∧
      last.synchronizer.host.available = [] ∧
      .updateEnabledRulesets [Fixes.ruleset] [] ∈ last.synchronizer.host.log ∧
      last.synchronizer.host.enabled.keys = [Fixes.ruleset] := by
  obtain ⟨last, hlast⟩ := exists_run (start {}) [fixesCall none false]
  have hfacts : ([fixesCall none false].foldlM next (start {})).map (fun last =>
      (last.synchronizer.host.available,
        decide (.updateEnabledRulesets [Fixes.ruleset] [] ∈ last.synchronizer.host.log),
        last.synchronizer.host.enabled.keys)) = some ([], true, [Fixes.ruleset]) := by
    decide +kernel
  rw [hlast] at hfacts
  simp only [Option.map_some, Option.some.injEq, Prod.mk.injEq, decide_eq_true_eq] at hfacts
  exact ⟨last, hlast, hfacts⟩

end FixesRun

end ContentFilter
