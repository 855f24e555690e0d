import ContentFilter.Proofs.Rule.SyncHost
import Mathlib.Data.List.Perm.Basic
import Mathlib.Order.Defs.LinearOrder

/-! A host that answers a call in the same way whenever it comes. What is asked of it leads from equal
rules and rule sets to equal ones, and replacing a family by the rules that it was made from changes
nothing. -/

namespace ContentFilter

namespace RuleTable

variable {p : Rule → Bool}

/-- Rules stand in the order of their numbers, each number once. -/
def Ordered (rules : List Rule) : Prop := rules.Pairwise fun a b => a.id < b.id

/-- Ordered rules are known from those inside a range and those outside. -/
theorem Ordered.ext {rules other : List Rule} (h : Ordered rules) (h' : Ordered other)
    (hin : rules.filter p = other.filter p)
    (hout : rules.filter (fun rule => !p rule) = other.filter fun rule => !p rule) :
    rules = other := by
  have hperm : rules.Perm other := by
    have hparts := List.filter_append_perm p other
    rw [← hin, ← hout] at hparts
    exact (List.filter_append_perm p rules).symm.trans hparts
  refine hperm.eq_of_pairwise (fun a b _ _ hab hba => ?_) h h'
  exact absurd hab (Nat.lt_asymm hba)

theorem Ordered.insert {rule : Rule} {rules : List Rule} (h : Ordered rules)
    (hfresh : ∀ other ∈ rules, other.id ≠ rule.id) : Ordered (insert rule rules) := by
  induction rules with
  | nil => exact List.pairwise_singleton _ _
  | cons other rest ih =>
    obtain ⟨hother, hrest⟩ := List.pairwise_cons.1 h
    have hne := hfresh other List.mem_cons_self
    rw [RuleTable.insert]
    split
    · next hlt =>
      refine List.pairwise_cons.2 ⟨fun found hfound => ?_, h⟩
      rcases List.mem_cons.1 hfound with rfl | hfound
      · exact hlt
      · exact Nat.lt_trans hlt (hother found hfound)
    · next hnot =>
      have hrest := ih hrest fun found hfound => hfresh found (List.mem_cons_of_mem other hfound)
      refine List.pairwise_cons.2 ⟨fun found hfound => ?_, hrest⟩
      obtain ⟨before, after, rfl, hinsert, -⟩ := insert_eq rule rest
      rw [hinsert, List.mem_append, List.mem_cons] at hfound
      rcases hfound with hfound | rfl | hfound
      · exact hother found (List.mem_append_left after hfound)
      · omega
      · exact hother found (List.mem_append_right before hfound)

theorem Ordered.insertAll {base added result : List Rule} (h : Ordered base)
    (hresult : insertAll base added = .ok result) : Ordered result := by
  induction added generalizing base with
  | nil =>
    cases hresult
    exact h
  | cons rule added ih =>
    rw [RuleTable.insertAll, List.foldlM_cons] at hresult
    split at hresult
    · cases hresult
    · next hfresh =>
      refine ih (h.insert fun other hother heq => hfresh ?_) hresult
      exact List.any_eq_true.2 ⟨other, hother, beq_iff_eq.2 heq⟩

/-- The numbers of some rules are not taken, and they do not take one another's. -/
structure Room (base added : List Rule) : Prop where
  fresh : ∀ rule ∈ added, ∀ other ∈ base, other.id ≠ rule.id
  apart : added.Pairwise fun a b => a.id ≠ b.id

theorem Room.sublist {base added fewer : List Rule} (h : Room base added)
    (hfewer : fewer.Sublist added) : Room base fewer where
  fresh rule hrule := h.fresh rule (hfewer.subset hrule)
  apart := h.apart.sublist hfewer

theorem Room.insertAll {base added : List Rule} (h : Room base added) :
    ∃ result, insertAll base added = .ok result := by
  induction added generalizing base with
  | nil => exact ⟨base, rfl⟩
  | cons rule added ih =>
    obtain ⟨hrule, hadded⟩ := List.pairwise_cons.1 h.apart
    have htaken : ¬base.any (·.id == rule.id) = true := by
      intro htaken
      obtain ⟨other, hother, heq⟩ := List.any_eq_true.1 htaken
      exact h.fresh rule List.mem_cons_self other hother (beq_iff_eq.1 heq)
    rw [RuleTable.insertAll, List.foldlM_cons, if_neg htaken]
    refine ih ⟨fun next hnext other hother => ?_, hadded⟩
    obtain ⟨before, after, rfl, hinsert, -⟩ := insert_eq rule base
    rw [hinsert, List.mem_append, List.mem_cons] at hother
    have hnext' := List.mem_cons_of_mem rule hnext
    rcases hother with hother | rfl | hother
    · exact h.fresh next hnext' other (List.mem_append_left after hother)
    · exact hrule next hnext
    · exact h.fresh next hnext' other (List.mem_append_right before hother)

end RuleTable

namespace RuleHost

open RuleTable (Ordered Room)

/-- What the host answers to a call does not depend on when it comes, nor for an update of rules on
those that it removes. -/
structure Constant (host : RuleHost) : Prop where
  anytime : ∀ n call, host.refuse n call = host.refuse 0 call
  removals : ∀ isSession removed added, host.refuse 0 (.updateRules isSession removed added) =
    host.refuse 0 (.updateRules isSession [] added)
  reliable : host.failingUpdates = 0

/-- The host without the record of its calls. -/
def quiet (host : RuleHost) : RuleHost := { host with log := [], calls := 0 }

/-- The host refuses what the other one refuses, and its rules stand in order. -/
structure InManner (manner host : RuleHost) : Prop where
  refuse : host.refuse = manner.refuse
  rejected : host.rejectedUrlFilters = manner.rejectedUrlFilters
  failing : host.failingUpdates = manner.failingUpdates
  ordered : Ordered host.dynamic

/-- Two hosts that differ in the record of their calls alone. -/
structure Twins (manner host host' : RuleHost) : Prop where
  manner : InManner manner host
  quiet : host'.quiet = host.quiet

theorem exists_record {host host' : RuleHost} (h : host'.quiet = host.quiet) :
    ∃ log calls, host' = { host with log := log, calls := calls } := by
  refine ⟨host'.log, host'.calls, ?_⟩
  cases host
  cases host'
  simp only [RuleHost.quiet, RuleHost.mk.injEq] at h ⊢
  tauto

theorem Twins.refl {manner host : RuleHost} (h : InManner manner host) : Twins manner host host :=
  ⟨h, rfl⟩

theorem Twins.symm {manner host host' : RuleHost} (h : Twins manner host host') :
    Twins manner host' host := by
  obtain ⟨hin, hquiet⟩ := h
  refine ⟨?_, hquiet.symm⟩
  obtain ⟨log, calls, rfl⟩ := exists_record hquiet
  exact ⟨hin.refuse, hin.rejected, hin.failing, hin.ordered⟩

/-- From twins the task comes to one result, and leaves twins. -/
def Uniform {α : Type} (manner : RuleHost) (task : Task RuleHost α) : Prop :=
  ∀ host host', Twins manner host host' →
    task.Both task host host' fun a next b next' => a = b ∧ Twins manner next next'

section Uniform

variable {α β : Type} {manner : RuleHost}

theorem uniform_pure (a : α) : Uniform manner (pure a) :=
  fun _ _ h => Task.both_pure ⟨rfl, h⟩

theorem Uniform.bind {task : Task RuleHost α} {f : α → Task RuleHost β} (h : Uniform manner task)
    (hf : ∀ a, Uniform manner (f a)) : Uniform manner (task >>= f) := by
  intro host host' htwins
  refine Task.both_bind ((h host host' htwins).mono fun a next b next' hpost => ?_)
  obtain ⟨rfl, hnext⟩ := hpost
  exact hf a next next' hnext

theorem Uniform.except_bind {task : ExceptT Failure (Task RuleHost) α}
    {f : α → ExceptT Failure (Task RuleHost) β} (h : Uniform manner task.run)
    (hf : ∀ a, Uniform manner (f a).run) : Uniform manner (task >>= f).run := by
  refine Uniform.bind h fun result => ?_
  cases result with
  | ok a => exact hf a
  | error cause => exact uniform_pure _

/-- The host alone: it keeps its manner. -/
theorem Uniform.ends {task : Task RuleHost α} (h : Uniform manner task) {host : RuleHost}
    (hhost : InManner manner host) : task.Ends host fun _ next => InManner manner next := by
  refine Task.Ends.mono (h host host (.refl hhost)) fun a next hrest => ?_
  obtain ⟨b, next', -, -, htwins⟩ := hrest
  exact htwins.manner

theorem uniform_validate (entry : Json) : Uniform manner (Fixes.validate entry) := by
  unfold Fixes.validate
  split
  · exact uniform_pure _
  split
  · exact uniform_pure _
  split
  · exact uniform_pure _
  next regex _ =>
  have hask : Uniform manner (Task.act (isRegexSupported regex)) := by
    rintro host host' ⟨hin, hquiet⟩
    obtain ⟨log, calls, rfl⟩ := exists_record hquiet
    exact Task.both_act ⟨rfl, ⟨hin.refuse, hin.rejected, hin.failing, hin.ordered⟩, rfl⟩
  refine hask.bind fun isSupported => ?_
  cases isSupported <;> exact uniform_pure _

theorem uniform_validateAll (entries : List Json) (index : Nat) :
    Uniform manner (Fixes.validateAll index entries) := by
  induction entries generalizing index with
  | nil => exact uniform_pure _
  | cons entry rest ih =>
    rw [Fixes.validateAll]
    refine (uniform_validate entry).bind fun result => (ih (index + 1)).bind fun load => ?_
    cases result <;> exact uniform_pure _

theorem uniform_loadFixes (source : Option FileSource) :
    Uniform manner (Synchronizer.loadFixes source) := by
  unfold Synchronizer.loadFixes Fixes.load
  split
  · split
    · exact uniform_pure _
    · exact (uniform_validateAll _ 0).bind fun load => uniform_pure _
  · exact uniform_pure _

variable (hmanner : Constant manner)
include hmanner

theorem InManner.refusal {host : RuleHost} (h : InManner manner host) (n : Nat) (question : HostCall) :
    host.refuse n question = manner.refuse 0 question := by
  rw [h.refuse, hmanner.anytime]

/-- Twins serve a call alike, when its answer does not depend on the record. -/
theorem serve_twins {question : HostCall} {answer : RuleHost → Except HostError α × RuleHost}
    (hkeeps : ∀ host, InManner manner host → InManner manner (answer host).2)
    (hrecord : ∀ (host : RuleHost) log calls,
      (answer { host with log := log, calls := calls }).1 = (answer host).1 ∧
        (answer { host with log := log, calls := calls }).2.quiet = (answer host).2.quiet)
    {host host' : RuleHost} (h : Twins manner host host') :
    (serve question answer host).1 = (serve question answer host').1 ∧
      Twins manner (serve question answer host).2 (serve question answer host').2 := by
  obtain ⟨hin, hquiet⟩ := h
  obtain ⟨log, calls, rfl⟩ := exists_record hquiet
  have hrefusal (n : Nat) := hin.refusal hmanner n question
  unfold serve
  dsimp only
  rw [hrefusal log.length, hrefusal host.log.length]
  cases manner.refuse 0 question with
  | some error => exact ⟨rfl, ⟨hin.refuse, hin.rejected, hin.failing, hin.ordered⟩, rfl⟩
  | none =>
    have hfirst := hrecord host (question :: host.log) (host.calls + 1)
    have hsecond := hrecord host (question :: log) (calls + 1)
    refine ⟨hfirst.1.trans hsecond.1.symm, hkeeps _ ?_, hsecond.2.trans hfirst.2.symm⟩
    exact ⟨hin.refuse, hin.rejected, hin.failing, hin.ordered⟩

theorem uniform_call {question : HostCall} {answer : RuleHost → Except HostError α × RuleHost}
    (hkeeps : ∀ host, InManner manner host → InManner manner (answer host).2)
    (hrecord : ∀ (host : RuleHost) log calls,
      (answer { host with log := log, calls := calls }).1 = (answer host).1 ∧
        (answer { host with log := log, calls := calls }).2.quiet = (answer host).2.quiet) :
    Uniform manner (call (serve question answer)).run := by
  intro host host' h
  obtain ⟨hresult, htwins⟩ := serve_twins hmanner hkeeps hrecord h
  exact Task.both_act ⟨by rw [hresult], htwins⟩

theorem uniform_question {question : HostCall} {value : RuleHost → α}
    (hvalue : ∀ (host : RuleHost) log calls,
      value { host with log := log, calls := calls } = value host) :
    Uniform manner (call (serve question fun host => (.ok (value host), host))).run :=
  uniform_call hmanner (fun _ h => h) fun host log calls => ⟨by rw [hvalue], rfl⟩

theorem updateRules_twins (isSession : Bool) (removed : List Nat) (added : List Rule)
    {host host' : RuleHost} (h : Twins manner host host') :
    (updateRules isSession removed added host).1 = (updateRules isSession removed added host').1 ∧
      Twins manner (updateRules isSession removed added host).2
        (updateRules isSession removed added host').2 := by
  refine serve_twins hmanner (fun host hin => ?_) (fun host log calls => ?_) h
  · have hup : ¬0 < host.failingUpdates := by rw [hin.failing, hmanner.reliable]; decide
    rw [if_neg hup]
    split
    · next rules hrules =>
      unfold updated at hrules
      dsimp only at hrules
      split at hrules
      · cases isSession with
        | true => exact ⟨hin.refuse, hin.rejected, hin.failing, hin.ordered⟩
        | false =>
          exact ⟨hin.refuse, hin.rejected, hin.failing, Ordered.insertAll (hin.ordered.filter _) hrules⟩
      · cases hrules
    · exact hin
  · have hupdated : updated { host with log := log, calls := calls } isSession removed added =
        host.updated isSession removed added := rfl
    rw [hupdated]
    split
    · exact ⟨rfl, rfl⟩
    · split
      · cases isSession <;> exact ⟨rfl, rfl⟩
      · exact ⟨rfl, rfl⟩

theorem uniform_updateEnabledRulesets (enable disable : List String) :
    Uniform manner (call (updateEnabledRulesets enable disable)).run :=
  uniform_call hmanner (fun _ h => ⟨h.refuse, h.rejected, h.failing, h.ordered⟩)
    fun _ _ _ => ⟨rfl, rfl⟩

theorem uniform_submit (isSession : Bool) (removed : List Nat) (rules : List Rule) :
    Uniform manner (submit isSession removed rules) := by
  induction hlength : rules.length using Nat.strongRecOn generalizing rules with
  | ind n ih =>
    rw [submit]
    have hupdate : Uniform manner (Task.act (updateRules isSession removed rules)) :=
      fun host host' h => Task.both_act (updateRules_twins hmanner isSession removed rules h)
    refine hupdate.bind fun answer => ?_
    rcases answer with error | _
    · cases error with
      | failed reason => exact uniform_pure _
      | rejected ids reason =>
        dsimp only
        split
        · exact uniform_pure _
        · next hrefused =>
          have hless := length_keptOf_lt hrefused
          exact (ih _ (hlength ▸ hless) _ rfl).bind fun rest => uniform_pure _
    · exact uniform_pure _

theorem uniform_idsOf (family : RuleFamily) : Uniform manner (idsOf family).run :=
  (uniform_question hmanner fun _ _ _ => rfl).except_bind fun _ => uniform_pure _

theorem uniform_replace (family : RuleFamily) (rules : List Rule) :
    Uniform manner (replace family rules).run := by
  have hassign : Uniform manner
      ((family.assign rules).mapError Failure.overflow : ExceptT Failure (Task RuleHost) _).run :=
    uniform_pure _
  refine hassign.except_bind fun numbered => ?_
  refine (uniform_idsOf hmanner family).except_bind fun removed => ?_
  have hsubmit : Uniform manner (ExceptT.mk (submit family.isSession removed numbered)).run :=
    uniform_submit hmanner family.isSession removed numbered
  exact hsubmit.except_bind fun submission => uniform_pure _

theorem uniform_setStandIn (wanted : Bool) : Uniform manner (Synchronizer.setStandIn wanted).run := by
  refine (uniform_question hmanner fun _ _ _ => rfl).except_bind fun enabled => ?_
  split
  · exact uniform_pure _
  split
  · exact uniform_updateEnabledRulesets hmanner _ _
  · exact uniform_updateEnabledRulesets hmanner _ _

theorem uniform_syncRulesets (config : Config) :
    Uniform manner (Synchronizer.syncRulesets config).run := by
  refine (uniform_question hmanner fun _ _ _ => rfl).except_bind fun available => ?_
  refine (uniform_question hmanner fun _ _ _ => rfl).except_bind fun enabled => ?_
  dsimp only
  split
  · exact uniform_pure _
  · exact (uniform_updateEnabledRulesets hmanner _ _).except_bind fun _ => uniform_pure _

end Uniform

section Again

variable {manner : RuleHost}

/-- Whatever of the host's fields a task can change, these two hosts agree on. -/
theorem quiet_eq {host host' : RuleHost} (hshelf : SameShelf host host')
    (hrules : ∀ b, host'.rules b = host.rules b) (h : InManner manner host)
    (h' : InManner manner host') : host'.quiet = host.quiet := by
  have hdynamic : host'.dynamic = host.dynamic := hrules false
  have hsession : host'.session = host.session := hrules true
  have henabled := hshelf.enabled
  have havailable := hshelf.available
  have hunsupported := hshelf.unsupported
  have hrejected := h'.rejected.trans h.rejected.symm
  have hfailing := h'.failing.trans h.failing.symm
  have hrefuse := h'.refuse.trans h.refuse.symm
  cases host
  cases host'
  simp only [quiet, RuleHost.mk.injEq] at *
  tauto

/-- The answer to an update of rules on a host that has room for them. -/
def answerOf (manner : RuleHost) (isSession : Bool) (added : List Rule) : Except HostError Unit :=
  match manner.refuse 0 (.updateRules isSession [] added) with
  | some error => .error error
  | none =>
    let refused := (added.filter manner.isRejected).map (·.id)
    if refused.isEmpty then .ok () else .error (.rejected refused "unsupported rule")

/-- A family's own numbers are free once its rules are removed. -/
theorem room_of_assign {family : RuleFamily} {rules numbered : List Rule}
    (h : family.assign rules = .ok numbered) (base : List Rule) :
    Room (RuleTable.remove ((base.map (·.id)).filter family.contains) base) numbered := by
  obtain ⟨hrange, horder⟩ := RuleFamily.assign_ordered h
  constructor
  · intro rule hrule other hother heq
    obtain ⟨hother, hkept⟩ := List.mem_filter.1 hother
    have hmem : other.id ∈ (base.map (·.id)).filter family.contains := by
      apply List.mem_filter.2
      exact ⟨List.mem_map_of_mem hother, heq ▸ hrange rule hrule⟩
    simp [hmem] at hkept
  · exact horder.imp fun hlt => Nat.ne_of_lt hlt

variable (hmanner : Constant manner)
include hmanner

theorem updateRules_answer {host : RuleHost} (hhost : InManner manner host) {isSession : Bool}
    {removed : List Nat} {added : List Rule}
    (hroom : Room (RuleTable.remove removed (host.rules isSession)) added) :
    (updateRules isSession removed added host).1 = answerOf manner isSession added := by
  obtain ⟨result, hresult⟩ := hroom.insertAll
  have hrefusal : host.refuse host.log.length (.updateRules isSession removed added) =
      manner.refuse 0 (.updateRules isSession [] added) := by
    rw [hhost.refusal hmanner, hmanner.removals]
  have hup : ¬0 < host.failingUpdates := by rw [hhost.failing, hmanner.reliable]; decide
  have hrejected : host.isRejected = manner.isRejected := by
    funext rule
    rw [isRejected, isRejected, hhost.rejected]
  unfold updateRules serve answerOf
  dsimp only
  rw [hrefusal]
  cases manner.refuse 0 (.updateRules isSession [] added) with
  | some error => rfl
  | none =>
    have hupdated (log : List HostCall) (calls : Nat) :
        updated { host with log := log, calls := calls } isSession removed added =
          if ((added.filter manner.isRejected).map (·.id)).isEmpty then .ok result
          else .error (.rejected ((added.filter manner.isRejected).map (·.id)) "unsupported rule") := by
      rw [← hrejected, ← hresult]
      rfl
    dsimp only
    rw [if_neg hup, hupdated]
    by_cases hempty : ((added.filter manner.isRejected).map (·.id)).isEmpty = true
    · rw [if_pos hempty, if_pos hempty]
    · rw [if_neg hempty, if_neg hempty]

/-- Wherever there is room for some rules, their submission comes to one result. -/
theorem both_submit {isSession : Bool} {removed removed' : List Nat} {rules : List Rule}
    {host host' : RuleHost} (hhost : InManner manner host) (hhost' : InManner manner host')
    (hroom : Room (RuleTable.remove removed (host.rules isSession)) rules)
    (hroom' : Room (RuleTable.remove removed' (host'.rules isSession)) rules) :
    (submit isSession removed rules).Both (submit isSession removed' rules) host host'
      fun result _ result' _ => result = result' := by
  induction hlength : rules.length using Nat.strongRecOn generalizing rules host host' with
  | ind n ih =>
    rw [submit, submit]
    refine Task.both_bind (Task.both_act ?_)
    have hanswer := updateRules_answer hmanner hhost hroom
    have hanswer' := updateRules_answer hmanner hhost' hroom'
    have hnext := (updateRules_twins hmanner isSession removed rules (.refl hhost)).2.manner
    have hnext' := (updateRules_twins hmanner isSession removed' rules (.refl hhost')).2.manner
    have hone := (updateRules_all_or_nothing isSession removed rules host).2
    have hone' := (updateRules_all_or_nothing isSession removed' rules host').2
    rw [hanswer] at hone ⊢
    rw [hanswer'] at hone' ⊢
    generalize answerOf manner isSession rules = answer at hone hone' ⊢
    cases answer with
    | ok _ => exact Task.both_pure rfl
    | error error =>
      cases error with
      | failed reason => exact Task.both_pure rfl
      | rejected ids reason =>
        dsimp only
        split
        · exact Task.both_pure rfl
        next hrefused =>
        have hless := length_keptOf_lt hrefused
        have hfewer : (keptOf ids rules).Sublist rules := List.filter_sublist
        have hrest := ih _ (hlength ▸ hless) hnext hnext' (by rw [hone]; exact hroom.sublist hfewer)
          (by rw [hone']; exact hroom'.sublist hfewer) rfl
        refine Task.both_bind (hrest.mono fun rest _ rest' _ heq => ?_)
        rw [heq]
        exact Task.both_pure rfl

theorem both_idsOf (family : RuleFamily) {host host' : RuleHost} (hhost : InManner manner host)
    (hhost' : InManner manner host') :
    (idsOf family).run.Both (idsOf family).run host host' fun result next result' next' =>
      Same host next ∧ Same host' next' ∧ match result, result' with
        | .ok ids, .ok ids' =>
          ids = ((host.rules family.isSession).map (·.id)).filter family.contains ∧
            ids' = ((host'.rules family.isSession).map (·.id)).filter family.contains
        | .error cause, .error cause' => cause = cause'
        | _, _ => False := by
  refine Task.both_except_bind (Task.both_act ?_)
  have hrefusal := hhost.refusal hmanner host.log.length (.rules family.isSession)
  have hrefusal' := hhost'.refusal hmanner host'.log.length (.rules family.isSession)
  have hsame (a : RuleHost) (log : List HostCall) (calls : Nat) :
      Same a { a with log := log, calls := calls } := ⟨⟨rfl, rfl, rfl⟩, fun _ => rfl⟩
  unfold listRules serve
  dsimp only
  rw [hrefusal, hrefusal']
  cases manner.refuse 0 (.rules family.isSession) with
  | some error => exact ⟨hsame _ _ _, hsame _ _ _, rfl⟩
  | none => exact Task.both_pure ⟨hsame _ _ _, hsame _ _ _, rfl, rfl⟩

/-- What the host refuses of a family's rules depends on its manner alone. -/
theorem both_replace (family : RuleFamily) (rules : List Rule) {host host' : RuleHost}
    (hhost : InManner manner host) (hhost' : InManner manner host') :
    (replace family rules).run.Both (replace family rules).run host host'
      fun result _ result' _ => result.map (·.rejected) = result'.map (·.rejected) := by
  refine Task.both_except_bind (Task.both_pure ?_)
  cases hassign : family.assign rules with
  | error overflow => rfl
  | ok numbered =>
    have hids := (both_idsOf hmanner family hhost hhost').and_left
      ((uniform_idsOf hmanner family).ends hhost)
    have hids := hids.and_right ((uniform_idsOf hmanner family).ends hhost')
    refine Task.both_except_bind (hids.mono fun result next result' next' hresult => ?_)
    obtain ⟨hnext', hnext, hsame, hsame', hresult⟩ := hresult
    cases result with
    | error cause =>
      cases result' with
      | error cause' => rw [hresult]
      | ok ids' => exact hresult
    | ok ids =>
      cases result' with
      | error cause' => exact hresult
      | ok ids' =>
        obtain ⟨rfl, rfl⟩ := hresult
        have hroom : Room (RuleTable.remove
            (((host.rules family.isSession).map (·.id)).filter family.contains)
            (next.rules family.isSession)) numbered := by
          rw [hsame.rules]
          exact room_of_assign hassign _
        have hroom' : Room (RuleTable.remove
            (((host'.rules family.isSession).map (·.id)).filter family.contains)
            (next'.rules family.isSession)) numbered := by
          rw [hsame'.rules]
          exact room_of_assign hassign _
        refine Task.both_except_bind ((both_submit hmanner hnext hnext' hroom hroom').mono ?_)
        rintro result _ result' _ rfl
        cases result with
        | error cause => rfl
        | ok submission => exact Task.both_pure rfl

/-- A family's place on the host: a host of that manner which has just these rules in the range of the
family keeps everything when the family is replaced. -/
def Fixed (manner : RuleHost) (family : RuleFamily) (rules held : List Rule) : Prop :=
  ∀ host, InManner manner host → host.rulesOf family = held →
    (replace family rules).run.Ends host fun _ host' => host'.quiet = host.quiet

/-- What a replacement puts on the host stays there when it is made again. -/
theorem ends_replace_fixed {family : RuleFamily} (hsession : family.isSession = false)
    (rules : List Rule) {host : RuleHost} (hhost : InManner manner host) :
    (replace family rules).run.Ends host fun result host' =>
      ∀ report, result = .ok report → Fixed manner family rules (host'.rulesOf family) := by
  obtain ⟨result, host', hrun, hreplaced⟩ := ends_replace family rules host
  refine ⟨result, host', hrun, fun report hreport again hagain hheld => ?_⟩
  subst hreport
  obtain ⟨-, -, -, numbered, hassign, hholds⟩ := hreplaced
  -- the same rules are refused as the first time
  have hboth := both_replace hmanner family rules hhost hagain
  have hrejected : (replace family rules).run.Ends again fun result' _ =>
      result'.map (·.rejected) = .ok report.rejected :=
    (Task.Ends.of_run? hboth hrun).mono fun result' _ heq => heq.symm
  have hkept := (uniform_replace hmanner family rules).ends hagain
  refine ((hrejected.and hkept).and (ends_replace_exact family rules again)).mono ?_
  rintro result' next ⟨⟨hsame, hnext⟩, hshelf, hexact⟩
  cases result' with
  | error cause => cases hsame
  | ok report' =>
    obtain ⟨-, numbered', rules', hassign', hinsert, hrules⟩ := hexact
    obtain rfl : numbered = numbered' := Except.ok.inj (hassign.symm.trans hassign')
    have hsame : report'.rejected = report.rejected := Except.ok.inj hsame
    have hin : again.rulesOf family = again.dynamic.filter fun rule => family.contains rule.id := by
      rw [rulesOf, hsession]
      rfl
    rw [hsame, ← hholds, ← hheld, hin, hsession] at hinsert
    have hrange : ∀ rule ∈ again.dynamic.filter (fun rule => family.contains rule.id),
        family.contains rule.id = true := fun rule hrule => (List.mem_filter.1 hrule).2
    have hdynamic : rules' = again.dynamic := by
      refine RuleTable.Ordered.ext (p := fun rule => family.contains rule.id)
        (Ordered.insertAll (hagain.ordered.filter _) hinsert) hagain.ordered ?_ ?_
      · apply RuleTable.filter_insertAll_of_pos (filter_remove_self family _) hrange ?_ hinsert
        exact (hagain.ordered.imp fun hlt => Nat.le_of_lt hlt).filter _
      · rw [RuleTable.filter_insertAll_of_neg (fun rule hrule => by simp [hrange rule hrule]) hinsert]
        exact filter_remove_outside (fun id hid => (List.mem_filter.1 hid).2) again.dynamic
    refine quiet_eq hshelf (fun b => ?_) hagain hnext
    rw [hrules, hsession, hdynamic]
    cases b <;> rfl

end Again

end RuleHost

end ContentFilter
