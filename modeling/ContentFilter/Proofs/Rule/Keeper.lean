import ContentFilter.Proofs.Rule.Exemptions
import ContentFilter.Proofs.Rule.Filing

/-! Calls that bring rules to a host, one after another, whatever the host has at the start, refuses and
fails at: each update keeps to one family, and what belongs to no family stays for ever. -/

namespace ContentFilter

open RuleHost Synchronizer

/-- What brings rules to a host: the synchronizer, and the allowances beside it. -/
structure RuleKeeper where
  synchronizer : Synchronizer
  allowances : List Allowance := []

def RuleKeeper.host (keeper : RuleKeeper) : RuleHost := keeper.synchronizer.host

/-- What a keeper is asked for. -/
inductive RuleAsk
  | sync (previous : Option Config)
  | trackersChanged
  | allowance (call : AllowanceCall)

/-- What a keeper answers. -/
inductive RuleAnswer
  | synced (report : SyncReport)
  | rebuilt (result : Except Failure (Option FamilyReport))
  | allowed (result : Except Failure Unit)

/-- One call of a keeper, with what it meets. -/
structure RuleCall where
  meets : SyncCall
  ask : RuleAsk

/-- What a call comes to. -/
structure RuleOutcome where
  answer : RuleAnswer
  keeper : RuleKeeper
  /-- The host at the start and after each step. -/
  hosts : List RuleHost

namespace RuleKeeper

/-- What a task comes to when it runs alone, read as an answer and a keeper. -/
def outcome {σ α : Type} (task : Task σ α) (s : σ) (answer : α → RuleAnswer)
    (keeper : σ → RuleKeeper) : Option RuleOutcome :=
  match task.run? s with
  | (some a, t) => some
    { answer := answer a
      keeper := keeper t
      hosts := (task.path s).map fun t => (keeper t).host }
  | (none, _) => none

/-- The synchronizer as a call finds it. -/
def found (keeper : RuleKeeper) (call : RuleCall) : Synchronizer :=
  call.meets.arrange keeper.synchronizer

/-- One call. -/
def take (keeper : RuleKeeper) (call : RuleCall) : Option RuleOutcome :=
  let start := keeper.found call
  match call.ask with
  | .sync previous =>
    outcome (sync call.meets.current previous call.meets.now) start .synced
      fun s => { keeper with synchronizer := s }
  | .trackersChanged =>
    outcome (onTrackersChanged call.meets.current) start .rebuilt
      fun s => { keeper with synchronizer := s }
  | .allowance ask =>
    outcome ask.task { allowances := keeper.allowances, host := some start.host } .allowed fun s =>
      { synchronizer := { start with host := s.host.getD start.host }, allowances := s.allowances }

def next (keeper : RuleKeeper) (call : RuleCall) : Option RuleKeeper :=
  (keeper.take call).map (·.keeper)

/-- The rules that a call builds for a family, if it does. -/
def built (keeper : RuleKeeper) (call : RuleCall) (family : RuleFamily) : Option (List Rule) :=
  match call.ask with
  | .sync _ => call.meets.built family
  | .trackersChanged =>
    if family = .exceptions then some (Exceptions.rules call.meets.current call.meets.trackers)
    else none
  | .allowance ask =>
    if family = .redirectAllowOnce then some ((ask.change keeper.allowances).map (·.rule)) else none

/-- The answer to a call that builds so many rules for a family that there are not enough numbers: no
success, unless nothing was to be done for it. -/
def Declines (keeper : RuleKeeper) (call : RuleCall) (family : RuleFamily) (count : Nat) :
    RuleAnswer → Prop
  | .synced report => (∀ found ∈ report.families, found.family ≠ family) ∧
    ∀ previous, call.ask = .sync previous →
      isDue family call.meets.current previous (keeper.found call).ledger.owedFamilies
        (keeper.found call) = true →
      ∃ cause, ⟨.family family, cause⟩ ∈ report.failures ∧
        (family ≠ .fixes → cause = .overflow ⟨family, count⟩)
  | .rebuilt result => result = .ok none ∨ result = .error (.overflow ⟨family, count⟩)
  | .allowed result => result = .error (.overflow ⟨family, count⟩) ∨
    result = .ok () ∧ ∀ ask, call.ask = .allowance ask →
      ask.change keeper.allowances = keeper.allowances

end RuleKeeper

/-- Step by step the outcome is reached from a host with the rules built for the families going where they
belong. -/
structure RuleOutcome.IsConfined (built : RuleFamily → Option (List Rule)) (host : RuleHost)
    (outcome : RuleOutcome) : Prop where
  first : outcome.hosts.head? = some host
  last : outcome.hosts.getLast? = some outcome.keeper.host
  steps : outcome.hosts.IsChain (Files built)

namespace RuleHost

variable {built : RuleFamily → Option (List Rule)} {host host' : RuleHost}

/-- The rules of a store that lie in no range of its families. -/
def strays (host : RuleHost) (isSession : Bool) : List Rule :=
  (host.rules isSession).filter fun rule =>
    RuleFamily.all.all fun family => !(family.isSession == isSession && family.contains rule.id)

theorem Files.strays_eq (h : Files built host host') (b : Bool) : host'.strays b = host.strays b := by
  cases h with
  | idle hidles => rw [strays, strays, hidles.rules]
  | @update family rules isSession removed added hbuilt hconfines hlog helsewhere houtside =>
    by_cases hstore : b = isSession
    · subst hstore
      have hsession : family.isSession = b := by
        rw [Bool.eq_iff_iff, hconfines.store]
        exact beq_iff_eq
      -- a stray rule is in particular not in the range of the updated family
      have hnarrow : ∀ rules : List Rule, (rules.filter fun rule =>
          RuleFamily.all.all fun family => !(family.isSession == b && family.contains rule.id)) =
          (rules.filter fun rule => !family.contains rule.id).filter fun rule =>
            RuleFamily.all.all fun family => !(family.isSession == b && family.contains rule.id) := by
        intro rules
        rw [List.filter_filter]
        refine List.filter_congr fun rule _ => ?_
        rw [Bool.eq_iff_iff, Bool.and_eq_true, iff_self_and, List.all_eq_true]
        intro hall
        have hmem : family ∈ RuleFamily.all := by cases family <;> decide
        simpa [hsession] using hall family hmem
      rw [strays, strays, hnarrow, houtside, ← hnarrow]
    · obtain rfl : b = !isSession := by cases b <;> cases isSession <;> simp_all
      rw [strays, strays, helsewhere]

end RuleHost

theorem RuleOutcome.IsConfined.strays_eq {built : RuleFamily → Option (List Rule)} {host : RuleHost}
    {outcome : RuleOutcome} (h : outcome.IsConfined built host) (b : Bool) :
    outcome.keeper.host.strays b = host.strays b := by
  obtain ⟨hfirst, hlast, hsteps⟩ := h
  revert hfirst hlast hsteps
  generalize outcome.keeper.host = last, outcome.hosts = hosts
  intro hfirst hlast hsteps
  induction hosts generalizing host with
  | nil => cases hfirst
  | cons first rest ih =>
    cases hfirst
    cases rest with
    | nil =>
      cases hlast
      rfl
    | cons second rest =>
      obtain ⟨hstep, hrest⟩ := List.isChain_cons_cons.1 hsteps
      exact (ih rfl hlast hrest).trans (hstep.strays_eq b)

namespace RuleKeeper

/-- A task whose moves put the rules where they belong has an outcome that is confined. -/
theorem outcome_of_follows {σ α Φ : Type} {built : RuleFamily → Option (List Rule)}
    {d : Task.Discipline Φ σ} {task : Task σ α} {s : σ} {φ : Φ}
    {answer : α → RuleAnswer} {keeper : σ → RuleKeeper} {post : α → σ → Prop} {ends : α → Φ → Prop}
    (hends : task.Ends s post) (hfollows : task.Follows d ends φ)
    (hmay : ∀ φ s φ' s', d.may φ s → d.move φ s φ' s' → d.may φ' s') (hs : d.may φ s)
    (hmove : ∀ φ s φ' s', d.move φ s φ' s' → Files built (keeper s).host (keeper s').host) :
    ∃ a t φ' after, outcome task s answer keeper = some after ∧ after.answer = answer a ∧
      post a t ∧ ends a φ' ∧ after.IsConfined built (keeper s).host := by
  obtain ⟨a, t, hrun, hpost⟩ := hends
  obtain ⟨φ', hend, -⟩ := hfollows.keeps (fun _ _ h => h) hmay hs hrun
  have hlast : (task.path s).getLast? = some t := by rw [Task.getLast?_path, hrun]
  refine ⟨a, t, φ', _, by rw [outcome, hrun], rfl, hpost, hend, ?_, ?_, ?_⟩
  · rw [List.head?_map, Task.head?_path]
    rfl
  · rw [List.getLast?_map, hlast]
    rfl
  · refine List.isChain_map_of_isChain _ (fun s s' hsteps => ?_) (hfollows.isChain_path hmay hs)
    obtain ⟨φ, φ', hm⟩ := hsteps
    exact hmove φ s φ' s' hm

/-- What a call of a keeper comes to. -/
structure Takes (keeper : RuleKeeper) (call : RuleCall) (after : RuleOutcome) : Prop where
  take : keeper.take call = some after
  confined : after.IsConfined (keeper.built call) (keeper.found call).host
  declined : ∀ family rules, keeper.built call family = some rules →
    family.capacity < rules.length → keeper.Declines call family rules.length after.answer

theorem takes_sync (keeper : RuleKeeper) (meets : SyncCall) (previous : Option Config) :
    ∃ after, keeper.Takes ⟨meets, .sync previous⟩ after := by
  obtain ⟨fixes, -, -, hfixes, -⟩ := ends_loadFixes meets.fixes (meets.arrange keeper.synchronizer).host
  have hends := @ends_sync (meets.arrange keeper.synchronizer) fixes hfixes meets.current previous
    meets.now
  obtain ⟨report, t, -, after, houtcome, hanswer, hsynced, htells, hconfined⟩ :=
    @outcome_of_follows _ _ _ _ _ _ _ _ .synced (fun s => { keeper with synchronizer := s }) _ _ hends
      (files_sync meets previous) (fun _ _ _ _ _ hmove => hmove.1) ⟨rfl, rfl, rfl⟩
      fun _ _ _ _ hmove => hmove.2
  refine ⟨after, houtcome, hconfined, fun family rules hbuilt hover => ?_⟩
  have hbuilt : meets.built family = some rules := hbuilt
  have hunreported : ∀ found ∈ report.families, found.family ≠ family := by
    rintro found hmem rfl
    exact absurd (htells.replaced found hmem rules hbuilt) (Nat.not_le.2 hover)
  have hfamily : family ∈ families := by
    by_contra hnot
    rw [SyncCall.built, if_neg hnot] at hbuilt
    cases hbuilt
  rw [hanswer]
  refine ⟨hunreported, ?_⟩
  rintro _ ⟨⟩ hdue
  cases hsynced.families family hfamily with
  | skipped hskipped _ => exact absurd (hskipped.symm.trans hdue) Bool.false_ne_true
  | delivered hdelivered =>
    obtain ⟨found, hfound, -⟩ := hdelivered.reported
    have hsame := List.find?_some hfound
    exact absurd (eq_of_beq hsame) (hunreported found (List.mem_of_find?_eq_some hfound))
  | failed hfailed =>
    obtain ⟨cause, hmem⟩ := hfailed.reported
    exact ⟨cause, hmem, fun hne => htells.failed family cause hmem hne rules hbuilt hover⟩

theorem takes_trackersChanged (keeper : RuleKeeper) (meets : SyncCall) :
    ∃ after, keeper.Takes ⟨meets, .trackersChanged⟩ after := by
  have hexceptions : keeper.built ⟨meets, .trackersChanged⟩ .exceptions =
      some (Exceptions.rules meets.current meets.trackers) := rfl
  obtain ⟨result, t, -, after, houtcome, hanswer, -, hresult, hconfined⟩ :=
    @outcome_of_follows _ _ _ _ _ _ _ _ .rebuilt (fun s => { keeper with synchronizer := s }) _ _
      (ends_onTrackersChanged meets.current (meets.arrange keeper.synchronizer))
      (files_onTrackersChanged hexceptions) (fun _ _ _ _ _ hmove => hmove.1) ⟨rfl, rfl, rfl⟩
      fun _ _ _ _ hmove => hmove.2
  refine ⟨after, houtcome, hconfined, fun family rules hbuilt hover => ?_⟩
  rw [hanswer]
  change (if family = .exceptions then some _ else none) = some rules at hbuilt
  split at hbuilt
  · next hfamily =>
    subst hfamily
    cases hbuilt
    exact hresult.imp_right fun hrefuses => hrefuses hover
  · cases hbuilt

theorem takes_allowance (keeper : RuleKeeper) (meets : SyncCall) (ask : AllowanceCall) :
    ∃ after, keeper.Takes ⟨meets, .allowance ask⟩ after := by
  have hallowed : keeper.built ⟨meets, .allowance ask⟩ .redirectAllowOnce =
      some ((ask.change keeper.allowances).map (·.rule)) := rfl
  have hends := @AllowanceState.ends_change ask.change
    { allowances := keeper.allowances, host := some (meets.arrange keeper.synchronizer).host } _ rfl
  have hfollows := AllowanceState.files_change hallowed
  rw [← ask.task_eq] at hends hfollows
  obtain ⟨result, t, -, after, houtcome, hanswer, ⟨hafter, hpost⟩, hresult, hconfined⟩ :=
    @outcome_of_follows _ _ _ _ _ _ _ _ .allowed (fun s : AllowanceState =>
      { synchronizer :=
          { meets.arrange keeper.synchronizer with
            host := s.host.getD (meets.arrange keeper.synchronizer).host }
        allowances := s.allowances }) _ _ hends hfollows
      (fun _ _ _ _ _ ⟨hallowances, _, host, _, hhost, _⟩ => ⟨hallowances, host, hhost⟩) ⟨rfl, _, rfl⟩
      (fun _ _ _ _ ⟨_, host, host', hhost, hhost', hfiles⟩ => by
        simpa only [RuleKeeper.host, hhost, hhost', Option.getD_some] using hfiles)
  refine ⟨after, houtcome, hconfined, fun family rules hbuilt hover => ?_⟩
  rw [hanswer]
  change (if family = .redirectAllowOnce then some _ else none) = some rules at hbuilt
  split at hbuilt
  · next hfamily =>
    subst hfamily
    cases hbuilt
    rcases hresult with rfl | hrefuses
    · refine .inr ⟨rfl, ?_⟩
      rintro _ ⟨⟩
      by_contra hchanged
      -- rules that were brought have their numbers
      rw [if_neg hchanged] at hpost
      obtain ⟨host, -, numbered, hassign, -⟩ := hpost
      rw [hafter] at hassign
      cases refuses_of_assign hassign (.ok () : Except Failure Unit) hover
    · exact .inl (hrefuses hover)
  · cases hbuilt

theorem exists_takes (keeper : RuleKeeper) (call : RuleCall) : ∃ after, keeper.Takes call after := by
  obtain ⟨meets, ask⟩ := call
  cases ask with
  | sync previous => exact keeper.takes_sync meets previous
  | trackersChanged => exact keeper.takes_trackersChanged meets
  | allowance ask => exact keeper.takes_allowance meets ask

theorem Takes.strays_eq {keeper : RuleKeeper} {call : RuleCall} {after : RuleOutcome}
    (h : keeper.Takes call after) (b : Bool) : after.keeper.host.strays b = keeper.host.strays b := by
  rw [h.confined.strays_eq b]
  cases b <;> rfl

/-- Every call of a run comes to its end, and none touches what belongs to no family. -/
theorem exists_run (start : RuleKeeper) (calls : List RuleCall) : ∃ last,
    calls.foldlM next start = some last ∧ ∀ b, last.host.strays b = start.host.strays b := by
  induction calls generalizing start with
  | nil => exact ⟨start, rfl, fun _ => rfl⟩
  | cons call calls ih =>
    obtain ⟨after, htakes⟩ := start.exists_takes call
    obtain ⟨last, hlast, hstrays⟩ := ih after.keeper
    refine ⟨last, ?_, fun b => (hstrays b).trans (htakes.strays_eq b)⟩
    rw [List.foldlM_cons, next, htakes.take]
    exact hlast

/-- After every run of calls, whatever the host had at the start and whatever it refuses and fails at,
one more call comes to its end. Step by step it updates at most the rules of one family: only numbers of
that family's range are removed or added, each once, in that family's store, and all other rules stay.
What belongs to no family is what it was at the start of the run. A family for which more rules are
built than it has numbers gets no update, and the answer is that it was refused, unless nothing was to
be done for it. -/
theorem isConfined_after (start : RuleKeeper) (calls : List RuleCall) (call : RuleCall) :
    ∃ before after, calls.foldlM next start = some before ∧ before.take call = some after ∧
      after.IsConfined (before.built call) (before.found call).host ∧
      (∀ b, after.keeper.host.strays b = start.host.strays b) ∧
      ∀ family rules, before.built call family = some rules → family.capacity < rules.length →
        before.Declines call family rules.length after.answer := by
  obtain ⟨before, hrun, hstrays⟩ := start.exists_run calls
  obtain ⟨after, htakes⟩ := before.exists_takes call
  exact ⟨before, after, hrun, htakes.take, htakes.confined,
    fun b => (htakes.strays_eq b).trans (hstrays b), htakes.declined⟩

end RuleKeeper

end ContentFilter
