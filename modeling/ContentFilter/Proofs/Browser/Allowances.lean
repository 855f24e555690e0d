import ContentFilter.Browser.Navigation
import ContentFilter.Proofs.Rule.Replace

/-! Giving and taking back allowances, on a host that may fail at any of its calls. The host's rules follow
the allowances only when the allowances change, so a call that failed is not made good by the next one. -/

namespace ContentFilter

open RuleHost

namespace Allowance

theorem rule_injective {a b : Allowance} (h : a.rule = b.rule) : a = b := by
  have hcondition : a.rule.condition = b.rule.condition := congrArg Rule.condition h
  cases a
  cases b
  simp [rule] at hcondition
  simp [hcondition]

theorem insert_perm (allowance : Allowance) (allowances : List Allowance) :
    (allowance.insert allowances).Perm (allowance :: allowances) := by
  induction allowances with
  | nil => exact .refl _
  | cons other rest ih =>
    rw [insert]
    split
    · exact .refl _
    · exact (ih.cons other).trans (.swap allowance other rest)

end Allowance

theorem RuleFamily.assign_of_le {family : RuleFamily} {rules : List Rule}
    (h : rules.length ≤ family.capacity) : ∃ numbered, family.assign rules = .ok numbered :=
  ⟨_, if_neg (Nat.not_lt.2 h)⟩

/-- But for their numbers, the numbered rules are the rules. -/
theorem RuleFamily.assign_map {family : RuleFamily} {rules numbered : List Rule}
    (h : family.assign rules = .ok numbered) :
    numbered.map ({ · with id := 0 }) = rules.map ({ · with id := 0 }) := by
  rw [assign] at h
  split at h
  · cases h
  · cases h
    rw [List.map_map]
    have hplain : rules.map ({ · with id := 0 }) =
        (rules.zipIdx.map Prod.fst).map ({ · with id := 0 }) := by
      rw [List.zipIdx_map_fst]
    rw [hplain, List.map_map]
    rfl

/-- The rules in a range tell which rules were put there. -/
theorem RuleHost.Holds.inj {host : RuleHost} {family : RuleFamily} {rules rules' : List Rule}
    (h : host.Holds family rules []) (h' : host.Holds family rules' []) :
    rules.map ({ · with id := 0 }) = rules'.map ({ · with id := 0 }) := by
  obtain ⟨numbered, hassign, hrules⟩ := h
  obtain ⟨numbered', hassign', hrules'⟩ := h'
  have hall : ∀ rules : List Rule,
      rules.filter (fun rule => rule ∉ ([] : List RejectedRule).map (·.rule)) = rules :=
    fun rules => List.filter_eq_self.2 fun rule _ => by simp
  rw [hall] at hrules hrules'
  rw [← RuleFamily.assign_map hassign, ← RuleFamily.assign_map hassign', ← hrules, ← hrules']

/-- The host has one rule for each of these allowances, and no other in their range. -/
def RuleHost.Allows (host : RuleHost) (allowances : List Allowance) : Prop :=
  host.Holds .redirectAllowOnce (allowances.map (·.rule)) []

namespace RuleHost

variable {host host' : RuleHost} {allowances allowances' : List Allowance}

theorem Allows.congr (h : host'.rulesOf .redirectAllowOnce = host.rulesOf .redirectAllowOnce) :
    host'.Allows allowances ↔ host.Allows allowances := by
  rw [Allows, Allows, Holds, Holds, h]

theorem Allows.inj (h : host.Allows allowances) (h' : host.Allows allowances') :
    allowances = allowances' := by
  have heq := Holds.inj h h'
  rw [List.map_map, List.map_map] at heq
  exact List.map_inj_right (fun a b => Allowance.rule_injective) |>.1 heq

end RuleHost

/-- An update in place of all rules in the range leaves one rule for each of the allowances. -/
theorem RuleHost.allows_updateRules {host : RuleHost} {allowances : List Allowance}
    {numbered : List Rule}
    (hassign : RuleFamily.redirectAllowOnce.assign (allowances.map (·.rule)) = .ok numbered)
    (hanswer : (updateRules true (((host.rules true).map (·.id)).filter
      RuleFamily.redirectAllowOnce.contains) numbered host).1 = .ok ()) :
    (updateRules true (((host.rules true).map (·.id)).filter
      RuleFamily.redirectAllowOnce.contains) numbered host).2.Allows allowances := by
  obtain ⟨-, hone⟩ := updateRules_all_or_nothing true (((host.rules true).map (·.id)).filter
    RuleFamily.redirectAllowOnce.contains) numbered host
  rw [hanswer] at hone
  obtain ⟨rules, hinsert, hrules⟩ := hone
  obtain ⟨hrange, horder⟩ := RuleFamily.assign_ordered hassign
  refine ⟨numbered, hassign, ?_⟩
  rw [rulesOf, hrules, if_pos (show true = RuleFamily.redirectAllowOnce.isSession from rfl),
    RuleTable.filter_insertAll_of_pos (filter_remove_self .redirectAllowOnce _) hrange
      (horder.imp fun h => Nat.le_of_lt h) hinsert]
  exact (List.filter_eq_self.2 fun rule _ => by simp).symm

namespace AllowanceState

/-- There is a rule for each of the allowances, or the rules are what they were. -/
theorem ends_install (allowances : List Allowance) (host : RuleHost) :
    (install allowances).run.Ends host fun result host' => match result with
      | .ok () => host'.Allows allowances
      | .error _ => host'.rulesOf .redirectAllowOnce = host.rulesOf .redirectAllowOnce := by
  refine Task.ends_except_bind (Task.ends_pure ?_)
  cases hassign : RuleFamily.redirectAllowOnce.assign (allowances.map (·.rule)) with
  | error overflow => rfl
  | ok numbered =>
    refine Task.ends_except_bind ((ends_idsOf .redirectAllowOnce host).mono fun result a ha => ?_)
    obtain ⟨hsame, hids⟩ := ha
    cases result with
    | error cause => exact hsame.rulesOf .redirectAllowOnce
    | ok removed =>
      obtain rfl := hids removed rfl
      rw [← hsame.rules]
      refine Task.ends_act ?_
      dsimp only
      cases hanswer : (updateRules RuleFamily.redirectAllowOnce.isSession (((a.rules
        RuleFamily.redirectAllowOnce.isSession).map (·.id)).filter
          RuleFamily.redirectAllowOnce.contains) numbered a).1 with
      | ok found => exact allows_updateRules hassign hanswer
      | error cause =>
        obtain ⟨-, hone⟩ := updateRules_all_or_nothing RuleFamily.redirectAllowOnce.isSession
          (((a.rules RuleFamily.redirectAllowOnce.isSession).map (·.id)).filter
            RuleFamily.redirectAllowOnce.contains) numbered a
        rw [hanswer] at hone
        rw [rulesOf, hone, hsame.rules]
        rfl

/-- The host is asked only when the allowances change, and they stay changed when it fails. -/
theorem ends_change (f : List Allowance → List Allowance) {s : AllowanceState} {host : RuleHost}
    (hhost : s.host = some host) :
    (change f).Ends s fun result s' => s'.allowances = f s.allowances ∧
      if f s.allowances = s.allowances then result = .ok () ∧ s' = s
      else ∃ host', s'.host = some host' ∧ match result with
        | .ok () => host'.Allows s'.allowances
        | .error _ => host'.rulesOf .redirectAllowOnce = host.rulesOf .redirectAllowOnce := by
  refine Task.ends_bind (Task.ends_act ?_)
  dsimp only
  by_cases hsame : f s.allowances = s.allowances
  · have hstate : { s with allowances := f s.allowances } = s := by rw [hsame]
    rw [hstate, if_neg (by simp [hsame])]
    simp only [if_pos hsame]
    exact Task.ends_pure ⟨hsame.symm, rfl, rfl⟩
  · rw [if_pos (by simpa using hsame)]
    simp only [if_neg hsame]
    refine Task.ends_bind (Task.ends_read ?_)
    simp only [id_eq, hhost]
    refine @Task.ends_within _ _ _ (fun s : AllowanceState => s.host.getD host)
      (fun host s => { s with host := some host }) (fun _ _ => rfl) (fun _ _ _ => rfl) _ _ rfl _ ?_
    refine (ends_install (f s.allowances) host).mono fun result host' hresult => ?_
    exact ⟨rfl, host', rfl, hresult⟩

end AllowanceState

/-- One call: the user goes on to the host of an address in a tab, or a tab is closed. -/
inductive AllowanceCall where
  | allowOnce (suffixes : Option Domain.PublicSuffixes) (tab : Int) (url : String)
  | forgetTab (tab : Int)

namespace AllowanceCall

def task : AllowanceCall → Task AllowanceState (Except Failure Unit)
  | allowOnce suffixes tab url => AllowanceState.allowOnce suffixes tab url
  | forgetTab tab => AllowanceState.forgetTab tab

def tab : AllowanceCall → Int
  | allowOnce _ tab _ => tab
  | forgetTab tab => tab

/-- What the call makes of the allowances. -/
def change : AllowanceCall → List Allowance → List Allowance
  | allowOnce suffixes tab url, allowances =>
    let allowance : Allowance := ⟨tab, (Request.page suffixes url).hostname⟩
    if allowances.contains allowance then allowances else allowance.insert allowances
  | forgetTab tab, allowances => allowances.filter (·.tab != tab)

theorem task_eq (call : AllowanceCall) : call.task = AllowanceState.change call.change := by
  cases call <;> rfl

theorem nodup_change (call : AllowanceCall) {allowances : List Allowance} (h : allowances.Nodup) :
    (call.change allowances).Nodup := by
  cases call with
  | allowOnce suffixes tab url =>
    rw [change]
    split
    · exact h
    · next hnot =>
      refine (Allowance.insert_perm _ _).nodup_iff.2 (List.nodup_cons.2 ⟨?_, h⟩)
      simpa using hnot
  | forgetTab tab => exact h.filter _

/-- What so many of the calls make of the allowances one after another. -/
def changes (calls : Nat → AllowanceCall) (allowances : List Allowance) : Nat → List Allowance
  | 0 => allowances
  | n + 1 => (calls n).change (changes calls allowances n)

/-- A call that is repeated finds nothing to change. -/
theorem change_change (call : AllowanceCall) (allowances : List Allowance) :
    call.change (call.change allowances) = call.change allowances := by
  cases call with
  | allowOnce suffixes tab url =>
    have hmem : (⟨tab, (Request.page suffixes url).hostname⟩ : Allowance) ∈
        (allowOnce suffixes tab url).change allowances := by
      rw [change]
      split
      · next hin => simpa using hin
      · exact (Allowance.insert_perm _ _).mem_iff.2 List.mem_cons_self
    exact if_pos (by simpa using hmem)
  | forgetTab tab => simp [change]

end AllowanceCall

/-- A run of calls, one after another. -/
structure AllowanceRun where
  state : AllowanceState
  /-- The allowances after the last call that changed them and succeeded. -/
  delivered : Option (List Allowance) := none
  result : Except Failure Unit := .ok ()

namespace AllowanceRun

/-- Before the first call nothing is allowed. -/
def start (host : RuleHost) : AllowanceRun where
  state := { host := some host }

/-- The run with what one more call returns and leaves. -/
def after (run : AllowanceRun) (result : Except Failure Unit) (state : AllowanceState) :
    AllowanceRun where
  state
  delivered :=
    if state.allowances = run.state.allowances ∨ result.isOk = false then run.delivered
    else some state.allowances
  result

/-- One more call. -/
def next (run : AllowanceRun) (call : AllowanceCall) : Option AllowanceRun :=
  match call.task.run? run.state with
  | (some result, state) => some (run.after result state)
  | (none, _) => none

/-- The host has one rule for each of the allowances. -/
def IsInLine (run : AllowanceRun) : Prop :=
  ∃ host, run.state.host = some host ∧ host.Allows run.state.allowances

/-- The host has the rules that it was last given. -/
structure Keeps (run : AllowanceRun) (host : RuleHost) : Prop where
  nodup : run.state.allowances.Nodup
  rules : ∃ current, run.state.host = some current ∧ match run.delivered with
    | some delivered => current.Allows delivered
    | none => current.rulesOf .redirectAllowOnce = host.rulesOf .redirectAllowOnce

/-- The allowances whose rules the host has are those of the last call that changed them and
succeeded. -/
theorem Keeps.isInLine_iff {run : AllowanceRun} {host : RuleHost} (h : run.Keeps host) :
    run.IsInLine ↔ match run.delivered with
      | some delivered => delivered = run.state.allowances
      | none => host.Allows run.state.allowances := by
  obtain ⟨current, hcurrent, hrules⟩ := h.rules
  have hline : run.IsInLine ↔ current.Allows run.state.allowances := by
    simp [IsInLine, hcurrent]
  rw [hline]
  cases hdelivered : run.delivered with
  | none =>
    rw [hdelivered] at hrules
    exact Allows.congr hrules
  | some delivered =>
    rw [hdelivered] at hrules
    constructor
    · intro hallows
      exact hrules.inj hallows
    · intro heq
      exact heq ▸ hrules

/-- What one call does to a run. -/
structure Takes (run : AllowanceRun) (call : AllowanceCall) (after : AllowanceRun) : Prop where
  next : run.next call = some after
  allowances : after.state.allowances = call.change run.state.allowances
  unchanged : call.change run.state.allowances = run.state.allowances →
    after.result = .ok () ∧ after.state = run.state
  delivered : call.change run.state.allowances ≠ run.state.allowances →
    after.result = .ok () → after.delivered = some after.state.allowances

theorem Keeps.takes {run : AllowanceRun} {host : RuleHost} (h : run.Keeps host)
    (call : AllowanceCall) : ∃ after, run.Takes call after ∧ after.Keeps host := by
  obtain ⟨current, hcurrent, hrules⟩ := h.rules
  obtain ⟨result, state, hrun, hallowances, hstate⟩ :=
    AllowanceState.ends_change call.change hcurrent
  rw [← call.task_eq] at hrun
  have hnodup : state.allowances.Nodup := hallowances ▸ call.nodup_change h.nodup
  refine ⟨run.after result state, ?_, hnodup, ?_⟩
  · refine ⟨by rw [next, hrun], hallowances, fun hsame => ?_, fun hchanged hok => ?_⟩
    · rwa [if_pos hsame] at hstate
    · refine if_neg (not_or.2 ⟨hallowances ▸ hchanged, ?_⟩)
      rw [show result = .ok () from hok]
      decide
  · by_cases hsame : call.change run.state.allowances = run.state.allowances
    · rw [if_pos hsame] at hstate
      obtain ⟨-, rfl⟩ := hstate
      simp only [after, true_or, if_true]
      exact ⟨current, hcurrent, hrules⟩
    · rw [if_neg hsame] at hstate
      obtain ⟨host', hhost', hresult⟩ := hstate
      refine ⟨host', hhost', ?_⟩
      cases result with
      | ok found =>
        simp only [after, hallowances, hsame, Except.isOk, Except.toBool, false_or, reduceCtorEq,
          if_false]
        exact hallowances ▸ hresult
      | error cause =>
        simp only [after, Except.isOk, Except.toBool, or_true, if_true]
        cases hdelivered : run.delivered with
        | none =>
          rw [hdelivered] at hrules
          exact hresult.trans hrules
        | some delivered =>
          rw [hdelivered] at hrules
          exact (Allows.congr hresult).2 hrules

theorem keeps_start (host : RuleHost) : (start host).Keeps host where
  nodup := .nil
  rules := ⟨host, rfl, rfl⟩

/-- Every call of a run returns, and the host keeps the rules that it was last given. -/
theorem Keeps.run {run : AllowanceRun} {host : RuleHost} (h : run.Keeps host)
    (calls : List AllowanceCall) : ∃ last, calls.foldlM next run = some last ∧ last.Keeps host := by
  induction calls generalizing run with
  | nil => exact ⟨run, rfl, h⟩
  | cons call calls ih =>
    obtain ⟨after, htakes, hafter⟩ := h.takes call
    obtain ⟨last, hlast, hkeeps⟩ := ih hafter
    refine ⟨last, ?_, hkeeps⟩
    rw [List.foldlM_cons, htakes.next]
    exact hlast

/-- After every run of calls and one more, there is one rule for each of the allowances exactly when they
are those of the last call that changed them and succeeded (or the host had such rules at the start). A
call that changes the allowances and succeeds leaves such rules; to repeat a call, whether or not it
failed, succeeds and does nothing. -/
theorem isInLine_iff_delivered (host : RuleHost) (calls : List AllowanceCall) (call : AllowanceCall) :
    ∃ before after again, calls.foldlM next (start host) = some before ∧
      before.next call = some after ∧ after.next call = some again ∧
      after.state.allowances.Nodup ∧
      (after.IsInLine ↔ match after.delivered with
        | some delivered => delivered = after.state.allowances
        | none => host.Allows after.state.allowances) ∧
      (after.state.allowances ≠ before.state.allowances → after.result = .ok () → after.IsInLine) ∧
      (after.state.allowances = before.state.allowances →
        after.result = .ok () ∧ after.state = before.state) ∧
      again.result = .ok () ∧ again.state = after.state := by
  obtain ⟨before, hbefore, hkeeps⟩ := (keeps_start host).run calls
  obtain ⟨after, htakes, hafter⟩ := hkeeps.takes call
  obtain ⟨again, hagain, -⟩ := hafter.takes call
  have hline := hafter.isInLine_iff
  refine ⟨before, after, again, hbefore, htakes.next, hagain.next, hafter.nodup, hline, ?_, ?_, ?_⟩
  · intro hchanged hok
    rw [hline, htakes.delivered (htakes.allowances ▸ hchanged) hok]
  · intro hsame
    exact htakes.unchanged (htakes.allowances ▸ hsame)
  · refine hagain.unchanged ?_
    rw [htakes.allowances, call.change_change]

/-- A call that failed leaves the allowance, so its repetition succeeds without a rule. -/
theorem not_isInLine_of_repeated :
    let call : AllowanceCall := .allowOnce none 1 "https://ads.com/"
    ∃ run, [call, call].foldlM next (start { failingUpdates := 1 }) = some run ∧
      run.result = .ok () ∧ run.state.allowances = [⟨1, "ads.com"⟩] ∧ ¬run.IsInLine := by
  refine ⟨_, rfl, rfl, rfl, ?_⟩
  intro hline
  obtain ⟨host, hhost, hallows⟩ := hline
  cases hhost
  obtain ⟨numbered, hassign, hrules⟩ := hallows
  cases hassign
  cases hrules

end AllowanceRun

end ContentFilter
