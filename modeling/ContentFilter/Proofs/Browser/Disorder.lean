import ContentFilter.Proofs.Browser.Overlap

/-! Orders of the steps that do not go well. When the host lists its rules for a call before it has
taken the update of one that started earlier, there are two such calls after which a rule is there that
nobody asked for. -/

namespace ContentFilter

open RuleHost

/-- The rules for some allowances are numbered from the first number on. -/
theorem RuleHost.allowanceIds_of_allows {host : RuleHost} {allowances : List Allowance}
    (h : host.Allows allowances) :
    host.allowanceIds = List.range' RuleFamily.redirectAllowOnce.start allowances.length := by
  obtain ⟨numbered, hassign, hrules⟩ := h
  have hids : host.allowanceIds = (host.rulesOf .redirectAllowOnce).map (·.id) := by
    rw [allowanceIds, rulesOf, List.filter_map]
    rfl
  rw [hids, hrules, List.filter_eq_self.2 fun rule _ => by simp, RuleFamily.map_id_assign hassign,
    List.length_map]

/-- What an update does not take away stays, whether or not the host takes the update. -/
theorem RuleHost.mem_allowanceIds_updateRules {host : RuleHost} {removed : List Nat} {id : Nat}
    (h : id ∈ host.allowanceIds) (hkept : id ∉ removed) (added : List Rule) :
    id ∈ (updateRules true removed added host).2.allowanceIds := by
  obtain ⟨-, hone⟩ := updateRules_all_or_nothing true removed added host
  simp only [allowanceIds, List.mem_filter, List.mem_map] at h ⊢
  obtain ⟨⟨rule, hrule, rfl⟩, hrange⟩ := h
  refine ⟨⟨rule, ?_, rfl⟩, hrange⟩
  split at hone
  · obtain ⟨rules, hinsert, hrules⟩ := hone
    rw [hrules, if_pos rfl, RuleTable.mem_insertAll hinsert]
    refine .inl (List.mem_filter.2 ⟨hrule, ?_⟩)
    simpa using hkept
  · rw [hone]
    exact hrule

namespace AllowanceState

variable {rules : List Rule} {task : Task AllowanceState (Except Failure Unit)}

theorem Updates.ne_done {removed : List Nat} (h : Updates removed rules task)
    (result : Except Failure Unit) : task ≠ .done result := by
  rintro rfl
  have hturn := h { host := some {} } {} rfl
  cases hturn

theorem Lists.ne_done (h : Lists rules task) (result : Except Failure Unit) : task ≠ .done result := by
  rintro rfl
  obtain ⟨rest, hturn, -⟩ := h { host := some {} } {} rfl ⟨fun _ _ => rfl, rfl, rfl⟩
  cases hturn

end AllowanceState

/-- The calls that go wrong: one lets the user go on in a tab, another forgets the tab that was allowed
before, and the rest find nothing to do. -/
def spoiling (giving call : Nat) : AllowanceCall :=
  if call = giving then .allowOnce none giving "https://a.com/" else .forgetTab call

theorem tab_spoiling (giving call : Nat) : (spoiling giving call).tab = call := by
  rw [spoiling]
  split
  · next h => rw [h]; rfl
  · rfl

namespace Disorder

variable {giving taking : Nat}

def given (giving : Nat) : Allowance := ⟨giving, (Request.page none "https://a.com/").hostname⟩

def taken (taking : Nat) : Allowance := ⟨taking, "b.com"⟩

/-- The allowances when so many calls have started. -/
def allowed (giving taking started : Nat) : List Allowance :=
  if started ≤ giving then [taken taking]
  else if started ≤ taking then (given giving).insert [taken taking]
  else [given giving]

theorem mem_allowed {started : Nat} {allowance : Allowance}
    (h : allowance ∈ allowed giving taking started) :
    allowance = given giving ∨ allowance = taken taking := by
  rw [allowed] at h
  split at h
  · exact .inr (List.mem_singleton.1 h)
  split at h
  · have hmem := (Allowance.insert_perm _ _).mem_iff.1 h
    rw [List.mem_cons, List.mem_singleton] at hmem
    exact hmem
  · exact .inl (List.mem_singleton.1 h)

theorem allowed_succ {call : Nat} (hgiving : call ≠ giving) (htaking : call ≠ taking) :
    allowed giving taking (call + 1) = allowed giving taking call := by
  have hgiving' : call + 1 ≤ giving ↔ call ≤ giving := by omega
  have htaking' : call + 1 ≤ taking ↔ call ≤ taking := by omega
  simp only [allowed, hgiving', htaking']

theorem length_allowed (started : Nat) : (allowed giving taking started).length =
    if started ≤ giving then 1 else if started ≤ taking then 2 else 1 := by
  rw [allowed]
  split
  · rfl
  split
  · exact (Allowance.insert_perm _ _).length_eq
  · rfl

/-- Each of the two calls finds something to change. -/
theorem allowed_succ_ne {call : Nat} (h : giving < taking) (htwo : call = giving ∨ call = taking) :
    allowed giving taking (call + 1) ≠ allowed giving taking call := by
  intro hsame
  have hlength := congrArg List.length hsame
  rw [length_allowed, length_allowed] at hlength
  split_ifs at hlength <;> omega

theorem change_spoiling (h : giving < taking) (call : Nat) :
    (spoiling giving call).change (allowed giving taking call) = allowed giving taking (call + 1) := by
  have hne : (giving : Int) ≠ taking := by omega
  rw [spoiling]
  by_cases hgiving : call = giving
  · subst hgiving
    rw [if_pos rfl, allowed, if_pos (Nat.le_refl _), allowed, if_neg (by omega), if_pos (by omega)]
    refine if_neg ?_
    simp [taken, hne]
  rw [if_neg hgiving]
  by_cases htaking : call = taking
  · subst htaking
    rw [allowed, if_neg (by omega), if_pos (Nat.le_refl _), allowed, if_neg (by omega), if_neg (by omega)]
    rw [AllowanceCall.change, Allowance.insert]
    split <;> simp [given, taken, Allowance.insert, hne]
  -- nobody has an allowance in the tab
  rw [allowed_succ hgiving htaking]
  refine List.filter_eq_self.2 fun allowance hmem => ?_
  have htab : allowance.tab ≠ call := by
    rcases mem_allowed hmem with rfl | rfl
    · simp only [given]
      omega
    · simp only [taken]
      omega
  simpa using htab

/-- What is left of the call is to ask the host, for what it noted when it started. -/
def Asks (giving taking call : Nat) (task : Task AllowanceState (Except Failure Unit)) : Prop :=
  ∃ rules, RuleFamily.redirectAllowOnce.assign ((allowed giving taking (call + 1)).map (·.rule)) = .ok rules ∧
    AllowanceState.Lists rules task

/-- What is left of the call is to replace the one rule that the host had. -/
def Replaces (giving taking call : Nat) (task : Task AllowanceState (Except Failure Unit)) : Prop :=
  ∃ rules, RuleFamily.redirectAllowOnce.assign ((allowed giving taking (call + 1)).map (·.rule)) = .ok rules ∧
    AllowanceState.Updates [RuleFamily.redirectAllowOnce.start] rules task

/-- Every call but the two is over. -/
structure Quiet (giving taking : Nat) (overlap : Overlap) (host : RuleHost) : Prop where
  current : overlap.state.host = some host
  serves : host.Serves
  allowances : overlap.state.allowances = allowed giving taking overlap.started.length
  others : ∀ call task, call ≠ giving → call ≠ taking → overlap.started[call]? = some task →
    task = .done (.ok ())

section Quiet

variable {overlap : Overlap} {host host' : RuleHost} {call : Nat}
  {task : Task AllowanceState (Except Failure Unit)}

theorem Quiet.answer_other (h : Quiet giving taking overlap host) (hgiving : call ≠ giving)
    (htaking : call ≠ taking) : overlap.answer call = overlap := by
  cases hcall : overlap.started[call]? with
  | none => exact Overlap.answer_of_none hcall
  | some task =>
    obtain rfl := h.others call task hgiving htaking hcall
    exact Overlap.answer_of_done hcall

/-- One of the two has taken a step on the host. -/
theorem Quiet.set (h : Quiet giving taking overlap host) (hcall : call = giving ∨ call = taking)
    (hserves : host'.Serves) : Quiet giving taking
      ⟨{ overlap.state with host := some host' }, overlap.started.set call task⟩ host' where
  current := rfl
  serves := hserves
  allowances := by
    rw [List.length_set]
    exact h.allowances
  others := by
    intro other task' hgiving htaking htask
    have hne : call ≠ other := by
      rintro rfl
      exact hcall.elim hgiving htaking
    rw [List.getElem?_set_ne hne] at htask
    exact h.others other task' hgiving htaking htask

theorem Quiet.answer_asks (h : Quiet giving taking overlap host) (hcall : call = giving ∨ call = taking)
    (htask : overlap.started[call]? = some task) (hasks : Asks giving taking call task)
    (hids : host.allowanceIds = [RuleFamily.redirectAllowOnce.start]) : ∃ host' rest,
      (overlap.answer call).started = overlap.started.set call rest ∧
      Quiet giving taking (overlap.answer call) host' ∧
      host'.allowanceIds = [RuleFamily.redirectAllowOnce.start] ∧ Replaces giving taking call rest := by
  obtain ⟨rules, hassign, hlists⟩ := hasks
  obtain ⟨rest, hturn, hupdates⟩ := hlists overlap.state host h.current h.serves
  obtain ⟨-, hserves, hrules⟩ := h.serves.listRules true
  rw [Overlap.answer_of_turn htask hturn]
  refine ⟨_, rest, rfl, h.set hcall hserves, ?_, rules, hassign, hids ▸ hupdates⟩
  rw [allowanceIds, hrules]
  exact hids

theorem Quiet.answer_updates (h : Quiet giving taking overlap host) {removed : List Nat} {rules : List Rule}
    (hcall : call = giving ∨ call = taking) (htask : overlap.started[call]? = some task)
    (hupdates : AllowanceState.Updates removed rules task) : ∃ result,
      (overlap.answer call).started = overlap.started.set call (.done result) ∧
      Quiet giving taking (overlap.answer call) (updateRules true removed rules host).2 := by
  rw [Overlap.answer_of_turn htask (hupdates overlap.state host h.current)]
  exact ⟨_, rfl, h.set hcall (h.serves.congr (sameManner_updateRules _ _ _ host))⟩

/-- The host takes the update of a call that knows all its numbers. -/
theorem Quiet.answer_replaces (h : Quiet giving taking overlap host)
    (hcall : call = giving ∨ call = taking) (htask : overlap.started[call]? = some task)
    (hreplaces : Replaces giving taking call task)
    (hids : host.allowanceIds = [RuleFamily.redirectAllowOnce.start]) : ∃ host' result,
      (overlap.answer call).started = overlap.started.set call (.done result) ∧
      Quiet giving taking (overlap.answer call) host' ∧
      host'.allowanceIds = List.range' RuleFamily.redirectAllowOnce.start
        (allowed giving taking (call + 1)).length := by
  obtain ⟨rules, hassign, hupdates⟩ := hreplaces
  obtain ⟨result, hstarted, hquiet⟩ := h.answer_updates hcall htask hupdates
  refine ⟨_, result, hstarted, hquiet, ?_⟩
  rw [← hids]
  exact allowanceIds_of_allows
    (allows_updateRules hassign (h.serves.updateRules (room_of_assign hassign (host.rules true))))

theorem Quiet.start (h : Quiet giving taking overlap host) (hlt : giving < taking) : ∃ rest,
    (overlap.start (spoiling giving overlap.started.length)).started = overlap.started ++ [rest] ∧
      Quiet giving taking (overlap.start (spoiling giving overlap.started.length)) host ∧
      (overlap.started.length = giving ∨ overlap.started.length = taking →
        Asks giving taking overlap.started.length rest) := by
  have hturns := AllowanceState.turns_task (spoiling giving overlap.started.length) h.current
  rw [h.allowances, change_spoiling hlt] at hturns
  refine ⟨_, rfl, ⟨?_, h.serves, ?_, ?_⟩, ?_⟩
  · rw [Overlap.start, hturns]
    split <;> exact h.current
  · rw [Overlap.start, hturns, List.length_append, List.length_singleton]
    split
    · next hsame => exact h.allowances.trans hsame.symm
    · rfl
  · intro call task hgiving htaking htask
    rw [Overlap.start, List.getElem?_append] at htask
    split at htask
    · exact h.others call task hgiving htaking htask
    · rw [List.getElem?_singleton] at htask
      split at htask
      · cases htask
        obtain rfl : call = overlap.started.length := by omega
        rw [hturns, if_pos (allowed_succ hgiving htaking)]
      · cases htask
  · intro htwo
    have hfit : ((allowed giving taking (overlap.started.length + 1)).map (·.rule)).length ≤
        RuleFamily.redirectAllowOnce.capacity := by
      rw [List.length_map, length_allowed]
      split_ifs <;> decide
    obtain ⟨rules, hassign⟩ := RuleFamily.assign_of_le hfit
    rw [hturns, if_neg (allowed_succ_ne hlt htwo)]
    exact ⟨rules, hassign, AllowanceState.lists_install host hassign⟩

end Quiet

/-- So far the host has not listed its rules for the call that takes, nor taken the update of the one
that gives. -/
structure Early (giving taking : Nat) (answers : List Nat) (overlap : Overlap) (host : RuleHost) : Prop
    extends Quiet giving taking overlap host where
  length : overlap.started.length = answers.length
  ids : host.allowanceIds = [RuleFamily.redirectAllowOnce.start]
  gives : ∀ task, overlap.started[giving]? = some task →
    answers[giving]? = some 0 ∧ Asks giving taking giving task ∨
      answers[giving]? = some 1 ∧ Replaces giving taking giving task
  takes : ∀ task, overlap.started[taking]? = some task → Asks giving taking taking task

section Early

variable {answers : List Nat} {overlap : Overlap} {host : RuleHost}

theorem Early.start (h : Early giving taking answers overlap host) (hlt : giving < taking) :
    Early giving taking (Turn.count answers .start)
      (overlap.start (spoiling giving overlap.started.length)) host := by
  obtain ⟨rest, hstarted, hquiet, hrest⟩ := h.toQuiet.start hlt
  refine ⟨hquiet, ?_, h.ids, fun task htask => ?_, fun task htask => ?_⟩
  · rw [hstarted, Turn.count, List.length_append, List.length_append, h.length]
    rfl
  · rw [hstarted, List.getElem?_append] at htask
    rw [Turn.count, List.getElem?_append, ← h.length]
    split at htask
    · next hless =>
      rw [if_pos hless]
      exact h.gives task htask
    · next hless =>
      rw [List.getElem?_singleton] at htask
      split at htask
      · next hzero =>
        cases htask
        have hgiving : overlap.started.length = giving := by omega
        rw [if_neg hless, hzero]
        exact .inl ⟨rfl, hgiving ▸ hrest (.inl hgiving)⟩
      · cases htask
  · rw [hstarted, List.getElem?_append] at htask
    split at htask
    · exact h.takes task htask
    · rw [List.getElem?_singleton] at htask
      split at htask
      · cases htask
        have htaking : overlap.started.length = taking := by omega
        exact htaking ▸ hrest (.inr htaking)
      · cases htask

/-- A turn that leaves it so. -/
theorem Early.answer (h : Early giving taking answers overlap host) (hlt : giving < taking) (call : Nat)
    (hgives : (Turn.count answers (.answer call))[giving]?.getD 0 ≤ 1)
    (htakes : (Turn.count answers (.answer call))[taking]?.getD 0 = 0) : ∃ host',
      Early giving taking (Turn.count answers (.answer call)) (overlap.answer call) host' := by
  cases hcall : overlap.started[call]? with
  | none =>
    have hcount : Turn.count answers (.answer call) = answers :=
      List.set_eq_of_length_le (h.length ▸ List.getElem?_eq_none_iff.1 hcall)
    rw [hcount, Overlap.answer_of_none hcall]
    exact ⟨host, h⟩
  | some task =>
    have hless : call < answers.length := h.length ▸ (List.getElem?_eq_some_iff.1 hcall).1
    by_cases htaking : call = taking
    · -- the host would have answered the call that takes
      subst htaking
      rw [Turn.count, List.getElem?_set_self hless, Option.getD_some] at htakes
      omega
    by_cases hgiving : call = giving
    · subst hgiving
      rcases h.gives task hcall with ⟨hzero, hasks⟩ | ⟨hone, -⟩
      · obtain ⟨host', rest, hstarted, hquiet, hids, hreplaces⟩ :=
          h.toQuiet.answer_asks (.inl rfl) hcall hasks h.ids
        refine ⟨host', hquiet, ?_, hids, fun task' htask => .inr ?_, fun task' htask => ?_⟩
        · rw [hstarted, Turn.count, List.length_set, List.length_set, h.length]
        · rw [hstarted, List.getElem?_set_self (h.length ▸ hless)] at htask
          cases htask
          rw [Turn.count, List.getElem?_set_self hless, hzero]
          exact ⟨rfl, hreplaces⟩
        · rw [hstarted, List.getElem?_set_ne htaking] at htask
          exact h.takes task' htask
      · rw [Turn.count, List.getElem?_set_self hless, hone, Option.getD_some, Option.getD_some] at hgives
        omega
    · rw [h.toQuiet.answer_other hgiving htaking]
      refine ⟨host, h.toQuiet, ?_, h.ids, ?_, h.takes⟩
      · rw [Turn.count, List.length_set, h.length]
      · rw [Turn.count, List.getElem?_set_ne hgiving]
        exact h.gives

end Early

/-- The host has listed its rules for the call that takes, while the one that gives had not ended: when
that one ends too, there is a second rule, which nobody takes out. -/
structure Spoilt (giving taking : Nat) (overlap : Overlap) (host : RuleHost) : Prop
    extends Quiet giving taking overlap host where
  length : taking < overlap.started.length
  takes : ∃ task, overlap.started[taking]? = some task ∧
    (Replaces giving taking taking task ∨ ∃ result, task = .done result)
  gives : host.allowanceIds = [RuleFamily.redirectAllowOnce.start] ∧
      (∃ task, overlap.started[giving]? = some task ∧
        (Asks giving taking giving task ∨ Replaces giving taking giving task)) ∨
    RuleFamily.redirectAllowOnce.start + 1 ∈ host.allowanceIds ∧
      ∃ result, overlap.started[giving]? = some (.done result)

section Spoilt

variable {overlap : Overlap} {host : RuleHost}

theorem Spoilt.start (h : Spoilt giving taking overlap host) (hlt : giving < taking) :
    Spoilt giving taking (overlap.start (spoiling giving overlap.started.length)) host := by
  obtain ⟨rest, hstarted, hquiet, -⟩ := h.toQuiet.start hlt
  have hlength := h.length
  have hsame : ∀ call ≤ taking, (overlap.started ++ [rest])[call]? = overlap.started[call]? :=
    fun call hcall => List.getElem?_append_left (by omega)
  refine ⟨hquiet, ?_, ?_, ?_⟩
  · rw [hstarted, List.length_append]
    omega
  · rw [hstarted, hsame taking (Nat.le_refl _)]
    exact h.takes
  · rw [hstarted, hsame giving (Nat.le_of_lt hlt)]
    exact h.gives

/-- A step of the call that takes leaves what is known of the other. -/
theorem Spoilt.answer_taking (h : Spoilt giving taking overlap host) (hlt : giving < taking) :
    ∃ host', Spoilt giving taking (overlap.answer taking) host' := by
  obtain ⟨task, htask, hreplaces | ⟨result, rfl⟩⟩ := h.takes
  · have hother : ∀ rest, (overlap.started.set taking rest)[giving]? = overlap.started[giving]? :=
      fun rest => List.getElem?_set_ne (Nat.ne_of_gt hlt)
    rcases h.gives with ⟨hids, hgives⟩ | ⟨hsecond, hgives⟩
    · obtain ⟨host', result, hstarted, hquiet, hids'⟩ :=
        h.toQuiet.answer_replaces (.inr rfl) htask hreplaces hids
      refine ⟨host', hquiet, ?_, ⟨.done result, ?_, .inr ⟨result, rfl⟩⟩, .inl ⟨?_, ?_⟩⟩
      · rw [hstarted, List.length_set]
        exact h.length
      · rw [hstarted, List.getElem?_set_self h.length]
      · rw [hids', length_allowed, if_neg (by omega), if_neg (by omega)]
        rfl
      · rw [hstarted, hother]
        exact hgives
    · obtain ⟨rules, -, hupdates⟩ := hreplaces
      obtain ⟨result, hstarted, hquiet⟩ := h.toQuiet.answer_updates (.inr rfl) htask hupdates
      refine ⟨_, hquiet, ?_, ⟨.done result, ?_, .inr ⟨result, rfl⟩⟩, .inr ⟨?_, ?_⟩⟩
      · rw [hstarted, List.length_set]
        exact h.length
      · rw [hstarted, List.getElem?_set_self h.length]
      · exact mem_allowanceIds_updateRules hsecond (by simp) rules
      · rw [hstarted, hother]
        exact hgives
  · rw [Overlap.answer_of_done htask]
    exact ⟨host, h⟩

/-- The call that gives goes on, and its update adds the second rule. -/
theorem Spoilt.answer_giving (h : Spoilt giving taking overlap host) (hlt : giving < taking) :
    ∃ host', Spoilt giving taking (overlap.answer giving) host' := by
  have hlength : giving < overlap.started.length := Nat.lt_trans hlt h.length
  have hother : ∀ rest, (overlap.started.set giving rest)[taking]? = overlap.started[taking]? :=
    fun rest => List.getElem?_set_ne (Nat.ne_of_lt hlt)
  rcases h.gives with ⟨hids, task, htask, hasks | hreplaces⟩ | ⟨-, result, hdone⟩
  · obtain ⟨host', rest, hstarted, hquiet, hids', hreplaces⟩ :=
      h.toQuiet.answer_asks (.inl rfl) htask hasks hids
    refine ⟨host', hquiet, ?_, ?_, .inl ⟨hids', rest, ?_, .inr hreplaces⟩⟩
    · rw [hstarted, List.length_set]
      exact h.length
    · rw [hstarted, hother]
      exact h.takes
    · rw [hstarted, List.getElem?_set_self hlength]
  · obtain ⟨host', result, hstarted, hquiet, hids'⟩ :=
      h.toQuiet.answer_replaces (.inl rfl) htask hreplaces hids
    refine ⟨host', hquiet, ?_, ?_, .inr ⟨?_, result, ?_⟩⟩
    · rw [hstarted, List.length_set]
      exact h.length
    · rw [hstarted, hother]
      exact h.takes
    · rw [hids', length_allowed, if_neg (by omega), if_pos (by omega)]
      decide
    · rw [hstarted, List.getElem?_set_self hlength]
  · rw [Overlap.answer_of_done hdone]
    exact ⟨host, h⟩

theorem Spoilt.next (h : Spoilt giving taking overlap host) (hlt : giving < taking) (turn : Turn) :
    ∃ host', Spoilt giving taking (overlap.next (spoiling giving) turn) host' := by
  cases turn with
  | start => exact ⟨host, h.start hlt⟩
  | answer call =>
    by_cases htaking : call = taking
    · exact htaking ▸ h.answer_taking hlt
    by_cases hgiving : call = giving
    · exact hgiving ▸ h.answer_giving hlt
    · rw [Overlap.next, h.toQuiet.answer_other hgiving htaking]
      exact ⟨host, h⟩

theorem Spoilt.foldl (h : Spoilt giving taking overlap host) (hlt : giving < taking)
    (turns : List Turn) :
    ∃ host', Spoilt giving taking (turns.foldl (Overlap.next (spoiling giving)) overlap) host' := by
  induction turns generalizing overlap host with
  | nil => exact ⟨host, h⟩
  | cons turn turns ih =>
    obtain ⟨host', h'⟩ := h.next hlt turn
    exact ih h'

/-- Either the call that gives is not over, or there is a rule too many. -/
theorem Spoilt.not_isWell (h : Spoilt giving taking overlap host) (hlt : giving < taking) :
    ¬overlap.IsWell := by
  rintro ⟨hover, host', hhost', hallows⟩
  obtain rfl : host = host' := Option.some.inj (h.current.symm.trans hhost')
  rcases h.gives with ⟨-, task, htask, hpending⟩ | ⟨hsecond, -⟩
  · have hdone := hover task (List.mem_of_getElem? htask)
    rcases hpending with ⟨rules, -, hlists⟩ | ⟨rules, -, hupdates⟩
    · exact hlists.ne_done _ hdone
    · exact hupdates.ne_done _ hdone
  · have hlength := h.length
    rw [allowanceIds_of_allows hallows, h.allowances, length_allowed, if_neg (by omega),
      if_neg (by omega)] at hsecond
    revert hsecond
    decide

end Spoilt

theorem getD_count_le (answers : List Nat) (turn : Turn) (call : Nat) :
    answers[call]?.getD 0 ≤ (turn.count answers)[call]?.getD 0 := by
  cases turn with
  | start =>
    rw [Turn.count, List.getElem?_append]
    split
    · exact Nat.le_refl _
    · next hge => simp [List.getElem?_eq_none_iff.2 (Nat.not_lt.1 hge)]
  | answer other =>
    rw [Turn.count, List.getElem?_set]
    split
    · next hsame =>
      subst hsame
      split
      · exact Nat.le_succ _
      · next hge => simp [List.getElem?_eq_none_iff.2 (Nat.not_lt.1 hge)]
    · exact Nat.le_refl _

/-- The tab to be forgotten is allowed, and the host has the rule. -/
def ruleOf (taking : Nat) : Rule := { (taken taking).rule with id := RuleFamily.redirectAllowOnce.start }

def before (taking : Nat) : AllowanceState where
  allowances := [taken taking]
  host := some { session := [ruleOf taking] }

theorem exists_early (hlt : giving < taking) (turns : List Turn)
    (hgives : (answersOf turns)[giving]?.getD 0 ≤ 1) (htakes : (answersOf turns)[taking]?.getD 0 = 0) :
    ∃ host, Early giving taking (answersOf turns)
      (Overlap.run (spoiling giving) (before taking) turns) host := by
  induction turns using List.reverseRecOn with
  | nil =>
    refine ⟨_, ⟨rfl, ⟨fun _ _ => rfl, rfl, rfl⟩, ?_, nofun⟩, rfl, rfl, nofun, nofun⟩
    exact (if_pos (Nat.zero_le _)).symm
  | append_singleton turns turn ih =>
    rw [answersOf_concat] at hgives htakes
    have hgives' := Nat.le_trans (getD_count_le (answersOf turns) turn giving) hgives
    have htakes' := Nat.le_trans (getD_count_le (answersOf turns) turn taking) (Nat.le_of_eq htakes)
    obtain ⟨host, hearly⟩ := ih hgives' (Nat.le_zero.1 htakes')
    rw [Overlap.run_concat, answersOf_concat]
    cases turn with
    | start => exact ⟨host, hearly.start hlt⟩
    | answer call => exact hearly.answer hlt call hgives htakes

theorem changes_spoiling (h : giving < taking) (n : Nat) :
    AllowanceCall.changes (spoiling giving) [taken taking] n = allowed giving taking n := by
  induction n with
  | zero => exact (if_pos (Nat.zero_le _)).symm
  | succ n ih => rw [AllowanceCall.changes, ih, change_spoiling h]

end Disorder

open Disorder in
/-- When the host lists its rules for a call before an update that started earlier, there are calls that
go wrong. -/
theorem Overlap.isOrderly_of_isSafe {turns : List Turn} (hsafe : IsSafe turns) : IsOrderly turns := by
  intro front taking back hturns hzero answers hmem
  by_contra hfew
  obtain ⟨giving, hget⟩ := List.mem_iff_getElem?.1 hmem
  rw [List.getElem?_take] at hget
  split at hget
  case isFalse => cases hget
  next hlt =>
  have hearlier : (answersOf front)[giving]?.getD 0 ≤ 1 := by
    rw [hget, Option.getD_some]
    omega
  obtain ⟨host, hearly⟩ := exists_early hlt front hearlier (by rw [hzero, Option.getD_some])
  have hlength : taking < (run (spoiling giving) (before taking) front).started.length :=
    hearly.length ▸ (List.getElem?_eq_some_iff.1 hzero).1
  have htask := List.getElem?_eq_getElem hlength
  obtain ⟨other, hother⟩ : ∃ other, (run (spoiling giving) (before taking) front).started[giving]? =
      some other := ⟨_, List.getElem?_eq_getElem (Nat.lt_trans hlt hlength)⟩
  obtain ⟨host', rest, hstarted, hquiet, hids, hreplaces⟩ :=
    hearly.toQuiet.answer_asks (.inr rfl) htask (hearly.takes _ htask) hearly.ids
  have hspoilt : Spoilt giving taking ((run (spoiling giving) (before taking) front).answer taking) host' := by
    refine ⟨hquiet, ?_, ⟨rest, ?_, .inl hreplaces⟩, .inl ⟨hids, other, ?_, ?_⟩⟩
    · rw [hstarted, List.length_set]
      exact hlength
    · rw [hstarted, List.getElem?_set_self hlength]
    · rw [hstarted, List.getElem?_set_ne (Nat.ne_of_gt hlt)]
      exact hother
    · exact (hearly.gives other hother).imp And.right And.right
  obtain ⟨last, hlast⟩ := hspoilt.foldl hlt back
  refine hlast.not_isWell hlt ?_
  have hrun : run (spoiling giving) (before taking) turns =
      back.foldl (next (spoiling giving)) ((run (spoiling giving) (before taking) front).answer taking) := by
    rw [run, hturns, List.foldl_append]
    rfl
  rw [← hrun]
  refine hsafe (spoiling giving) (before taking) _ ?_ rfl ⟨fun _ _ => rfl, rfl, rfl⟩ ?_ ?_
  · intro call call' hsame
    simp only [tab_spoiling] at hsame
    omega
  · exact ⟨[ruleOf taking], rfl, rfl⟩
  · intro n _
    rw [before, changes_spoiling hlt, length_allowed]
    split_ifs <;> decide

/-- The orders of the steps in which all calls do what they are for are those in which the host lists
its rules for a call only after the updates of all that started before it. -/
theorem Overlap.isSafe_iff_isOrderly {turns : List Turn} (hcomplete : IsComplete turns) :
    IsSafe turns ↔ IsOrderly turns :=
  ⟨isOrderly_of_isSafe, isSafe_of_isOrderly hcomplete⟩

/-- Two calls one after the other, in the order in which they go well. -/
theorem Overlap.isSafe_iff_isOrderly_of_two :
    IsComplete [.start, .answer 0, .answer 0, .start, .answer 1, .answer 1] ∧
      (IsSafe [.start, .answer 0, .answer 0, .start, .answer 1, .answer 1] ↔
        IsOrderly [.start, .answer 0, .answer 0, .start, .answer 1, .answer 1]) := by
  have hcomplete : IsComplete [.start, .answer 0, .answer 0, .start, .answer 1, .answer 1] := by
    rw [IsComplete]
    decide
  exact ⟨hcomplete, isSafe_iff_isOrderly hcomplete⟩

/-- A call that started earlier ends last: its rules take the place of the newer ones. -/
theorem Overlap.lost_of_overlap :
    let last := run (fun n => .allowOnce none n "https://a.com/") { host := some {} }
      [.start, .start, .answer 1, .answer 1, .answer 0, .answer 0]
    last.started = [.done (.ok ()), .done (.ok ())] ∧
      last.state.allowances = [⟨0, "a.com"⟩, ⟨1, "a.com"⟩] ∧
      last.state.host.map (·.session.map (·.condition.tabIds)) = some [some [0]] :=
  ⟨rfl, rfl, rfl⟩

-- When the host lists its rules for both before it takes an update, it refuses the second update.
open Overlap in
example : (run (fun n => .allowOnce none n "https://a.com/") { host := some {} }
      [.start, .start, .answer 0, .answer 1, .answer 0, .answer 1]).started =
    [.done (.ok ()), .done (.error (.host (.failed "duplicate rule id 2000")))] := rfl

end ContentFilter
