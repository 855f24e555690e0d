import ContentFilter.Proofs.Interleaving
import ContentFilter.Proofs.Rule.Replace
import Mathlib.Data.List.Nodup

/-! The replacement of a family step by step, while others change the host between the steps. What it
removes are the rules that were there when it looked, so rules that came since may stay or stand in its
way. -/

namespace ContentFilter

namespace RuleTable

theorem mem_insert {rule other : Rule} {rules : List Rule} :
    other ∈ insert rule rules ↔ other = rule ∨ other ∈ rules := by
  obtain ⟨before, after, rfl, hinsert, -⟩ := insert_eq rule rules
  rw [hinsert]
  simp only [List.mem_append, List.mem_cons]
  tauto

theorem mem_insertAll {base added result : List Rule} {rule : Rule}
    (h : insertAll base added = .ok result) : rule ∈ result ↔ rule ∈ base ∨ rule ∈ added := by
  induction added generalizing base with
  | nil =>
    cases h
    simp
  | cons next added ih =>
    rw [insertAll, List.foldlM_cons] at h
    split at h
    · cases h
    · rw [ih h, mem_insert, List.mem_cons]
      tauto

/-- Rules cannot be added for a number that is taken, which refuses none of them by its number. -/
theorem insertAll_ne_rejected {base added : List Rule} {ids : List Nat} {reason : String} :
    insertAll base added ≠ .error (.rejected ids reason) := by
  induction added generalizing base with
  | nil => exact fun h => by cases h
  | cons next added ih =>
    intro h
    rw [insertAll, List.foldlM_cons] at h
    split at h
    · cases h
    · exact ih h

end RuleTable

/-- A number tells which of the numbered rules it belongs to. -/
theorem RuleFamily.eq_of_assign {family : RuleFamily} {rules numbered : List Rule}
    (h : family.assign rules = .ok numbered) {a b : Rule} (ha : a ∈ numbered) (hb : b ∈ numbered)
    (hid : a.id = b.id) : a = b := by
  have hnodup : (numbered.map (·.id)).Nodup :=
    List.pairwise_map.2 ((RuleFamily.assign_ordered h).2.imp Nat.ne_of_lt)
  exact List.inj_on_of_nodup_map hnodup ha hb hid

namespace RuleHost

/-- The host refuses what it refused before, and is no less reliable. -/
structure SameManner (host host' : RuleHost) : Prop where
  refuse : host'.refuse = host.refuse
  rejected : host'.rejectedUrlFilters = host.rejectedUrlFilters
  failing : host'.failingUpdates ≤ host.failingUpdates

theorem SameManner.refl (host : RuleHost) : SameManner host host := ⟨rfl, rfl, Nat.le_refl _⟩

theorem SameManner.trans {a b c : RuleHost} (hab : SameManner a b) (hbc : SameManner b c) :
    SameManner a c :=
  ⟨hbc.refuse.trans hab.refuse, hbc.rejected.trans hab.rejected,
    Nat.le_trans hbc.failing hab.failing⟩

/-- There is a call in which the host refuses the rule. -/
def MayRefuse (host : RuleHost) (rule : Rule) : Prop :=
  host.isRejected rule = true ∨
    ∃ n call ids reason, host.refuse n call = some (.rejected ids reason) ∧ rule.id ∈ ids

theorem MayRefuse.congr {host host' : RuleHost} (h : SameManner host host') {rule : Rule} :
    host'.MayRefuse rule ↔ host.MayRefuse rule := by
  rw [MayRefuse, MayRefuse, isRejected, isRejected, h.refuse, h.rejected]

/-- The host has the rules of a family, numbered, except some that it refuses, and no others in the
range. -/
def Carries (host : RuleHost) (family : RuleFamily) (rules : List Rule) : Prop :=
  ∃ numbered, family.assign rules = .ok numbered ∧
    (∀ rule ∈ host.rulesOf family, rule ∈ numbered) ∧
    ∀ rule ∈ numbered, rule ∈ host.rulesOf family ∨ host.MayRefuse rule

theorem Carries.congr {host host' : RuleHost} {family : RuleFamily} {rules : List Rule}
    (h : host.Carries family rules) (hmanner : SameManner host host')
    (hrules : host'.rulesOf family = host.rulesOf family) : host'.Carries family rules := by
  obtain ⟨numbered, hassign, hwithin, hall⟩ := h
  rw [Carries, hrules]
  refine ⟨numbered, hassign, hwithin, fun rule hrule => ?_⟩
  rw [MayRefuse.congr hmanner]
  exact hall rule hrule

theorem sameManner_updateRules (isSession : Bool) (removed : List Nat) (added : List Rule)
    (host : RuleHost) : SameManner host (updateRules isSession removed added host).2 := by
  unfold updateRules serve
  dsimp only
  split
  · exact ⟨rfl, rfl, Nat.le_refl _⟩
  split
  · exact ⟨rfl, rfl, Nat.sub_le _ _⟩
  split
  · cases isSession <;> exact ⟨rfl, rfl, Nat.le_refl _⟩
  · exact ⟨rfl, rfl, Nat.le_refl _⟩

/-- Rules that an answer names are refused. -/
theorem mayRefuse_of_rejected {isSession : Bool} {removed : List Nat} {added : List Rule}
    {host : RuleHost} {ids : List Nat} {reason : String}
    (hanswer : (updateRules isSession removed added host).1 = .error (.rejected ids reason))
    (hdistinct : ∀ a ∈ added, ∀ b ∈ added, a.id = b.id → a = b) {rule : Rule} (hrule : rule ∈ added)
    (hid : rule.id ∈ ids) : host.MayRefuse rule := by
  unfold updateRules serve at hanswer
  dsimp only at hanswer
  split at hanswer
  · next error herror =>
    cases hanswer
    exact .inr ⟨_, _, ids, reason, herror, hid⟩
  split at hanswer
  · cases hanswer
  split at hanswer
  · cases hanswer
  · next error herror =>
    cases hanswer
    unfold updated at herror
    dsimp only at herror
    split at herror
    · exact absurd herror RuleTable.insertAll_ne_rejected
    · cases herror
      obtain ⟨other, hother, hsame⟩ := List.mem_map.1 hid
      obtain ⟨hother, hrejected⟩ := List.mem_filter.1 hother
      rw [← hdistinct other hother rule hrule hsame]
      exact .inl hrejected

/-- How far the replacement of a family has come. -/
inductive Turnover (family : RuleFamily)
  | begun
  /-- It has seen which numbers are taken in the range. -/
  | listed (ids : List Nat) (hids : ∀ id ∈ ids, family.contains id = true)
  | replaced

theorem Turnover.begun_ne {family : RuleFamily} : (begun : Turnover family) ≠ replaced := nofun

theorem Turnover.listed_ne {family : RuleFamily} {ids : List Nat}
    {hids : ∀ id ∈ ids, family.contains id = true} : listed ids hids ≠ replaced := nofun

/-- What one step of a replacement does to the host: nothing to its rules, or it sees the numbers that are
taken, or it puts the new rules in place of those that it saw. -/
inductive Turns (manner : RuleHost) (family : RuleFamily) (rules : List Rule) :
    Turnover family → RuleHost → Turnover family → RuleHost → Prop
  | stay {stage : Turnover family} {host host' : RuleHost}
    (hrules : ∀ b, host'.rules b = host.rules b) : Turns manner family rules stage host stage host'
  | list {host host' : RuleHost} {ids : List Nat} (hids : ∀ id ∈ ids, family.contains id = true)
    (hlisted : ∀ rule ∈ host.rulesOf family, rule.id ∈ ids)
    (hrules : ∀ b, host'.rules b = host.rules b) :
    Turns manner family rules .begun host (.listed ids hids) host'
  | write {host host' : RuleHost} {ids : List Nat} (hids : ∀ id ∈ ids, family.contains id = true)
    {numbered added result : List Rule} (hassign : family.assign rules = .ok numbered)
    (hadded : ∀ rule ∈ added, rule ∈ numbered)
    (hrefused : ∀ rule ∈ numbered, rule ∈ added ∨ manner.MayRefuse rule)
    (hinsert : RuleTable.insertAll (RuleTable.remove ids (host.rules family.isSession)) added =
      .ok result)
    (hrules : ∀ b, host'.rules b = if family.isSession = b then result else host.rules b) :
    Turns manner family rules (.listed ids hids) host .replaced host'

/-- The replacement of a family on a host that refuses what `manner` refuses. -/
def replacing (manner : RuleHost) (family : RuleFamily) (rules : List Rule) :
    Task.Discipline (Turnover family) RuleHost where
  may _ host := SameManner manner host
  move stage host stage' host' := SameManner host host' ∧ Turns manner family rules stage host stage' host'

section Turns

variable {manner host host' : RuleHost} {family other : RuleFamily} {rules : List Rule}

theorem rulesOf_congr (h : ∀ b, host'.rules b = host.rules b) (family : RuleFamily) :
    host'.rulesOf family = host.rulesOf family := by
  rw [rulesOf, h]
  rfl

/-- The rules of a family after a replacement wrote: the new ones, and those that it had not seen. -/
theorem mem_rulesOf_of_write {ids : List Nat} {numbered added result : List Rule}
    (hassign : family.assign rules = .ok numbered) (hadded : ∀ rule ∈ added, rule ∈ numbered)
    (hinsert : RuleTable.insertAll (RuleTable.remove ids (host.rules family.isSession)) added =
      .ok result)
    (hrules : ∀ b, host'.rules b = if family.isSession = b then result else host.rules b)
    {rule : Rule} : rule ∈ host'.rulesOf family ↔
      rule ∈ added ∨ rule ∈ host.rulesOf family ∧ rule.id ∉ ids := by
  have hrange : rule ∈ added → family.contains rule.id = true := fun hmem =>
    (RuleFamily.assign_ordered hassign).1 rule (hadded rule hmem)
  rw [rulesOf, rulesOf, hrules, if_pos rfl, List.mem_filter, List.mem_filter,
    RuleTable.mem_insertAll hinsert, RuleTable.remove, List.mem_filter]
  simp only [Bool.not_eq_true', List.contains_eq_mem, decide_eq_false_iff_not]
  tauto

/-- A replacement does nothing to another family. -/
theorem Turns.elsewhere {stage stage' : Turnover family}
    (h : Turns manner family rules stage host stage' host') (hne : other ≠ family) :
    host'.rulesOf other = host.rulesOf other := by
  cases h with
  | stay hrules => exact rulesOf_congr hrules other
  | list hids hlisted hrules => exact rulesOf_congr hrules other
  | @write _ _ ids hids numbered added result hassign hadded hrefused hinsert hrules =>
    have hapart : ∀ id, other.contains id = true → family.contains id = false := by
      intro id hother
      rw [← Bool.not_eq_true]
      exact fun hfamily => hne (RuleFamily.eq_of_contains hother hfamily)
    rw [rulesOf, hrules]
    split
    · next hsession =>
      have hout : ∀ rule ∈ added, other.contains rule.id = false := by
        intro rule hrule
        rw [← Bool.not_eq_true]
        intro hother
        have hrange := (RuleFamily.assign_ordered hassign).1 rule (hadded rule hrule)
        rw [hapart rule.id hother] at hrange
        cases hrange
      rw [RuleTable.filter_insertAll_of_neg hout hinsert, RuleTable.remove, List.filter_filter, rulesOf,
        hsession]
      refine List.filter_congr fun rule _ => ?_
      cases hother : other.contains rule.id with
      | false => rfl
      | true =>
        have hkept : rule.id ∉ ids := by
          intro hid
          have hrange := hids rule.id hid
          rw [hapart rule.id hother] at hrange
          cases hrange
        simp [hkept]
    · rfl

/-- What is known at a stage of a replacement about the rules that the family is to have: those that it has
not seen are among them, and when it has written they are there. -/
def Knows (family : RuleFamily) (rules : List Rule) : Turnover family → RuleHost → Prop
  | .begun, _ => True
  | .listed ids _, host => ∀ rule ∈ host.rulesOf family, rule.id ∉ ids →
    ∃ numbered, family.assign rules = .ok numbered ∧ rule ∈ numbered
  | .replaced, host => host.Carries family rules

/-- A host that has the rules of the family satisfies every replacement by them. -/
theorem Carries.knows (h : host.Carries family rules) (stage : Turnover family) :
    Knows family rules stage host := by
  cases stage with
  | begun => trivial
  | listed ids hids =>
    obtain ⟨numbered, hassign, hwithin, -⟩ := h
    exact fun rule hrule _ => ⟨numbered, hassign, hwithin rule hrule⟩
  | replaced => exact h

theorem Knows.congr {stage : Turnover family} (h : Knows family rules stage host)
    (hmanner : SameManner host host') (hrules : host'.rulesOf family = host.rulesOf family) :
    Knows family rules stage host' := by
  cases stage with
  | begun => trivial
  | listed ids hids =>
    rw [Knows, hrules]
    exact h
  | replaced => exact Carries.congr h hmanner hrules

/-- One step of a replacement either leaves the rules of the family, or it writes and they are there. -/
theorem Turns.knows {stage stage' : Turnover family} (hmanner : SameManner manner host')
    (h : Turns manner family rules stage host stage' host') (hsame : SameManner host host')
    (hknows : Knows family rules stage host) : Knows family rules stage' host' ∧
      (host'.rulesOf family = host.rulesOf family ∨ host'.Carries family rules) := by
  cases h with
  | stay hrules =>
    have hrules := rulesOf_congr hrules family
    exact ⟨hknows.congr hsame hrules, .inl hrules⟩
  | list hids hlisted hrules =>
    have hrules := rulesOf_congr hrules family
    refine ⟨fun rule hrule hnot => ?_, .inl hrules⟩
    rw [hrules] at hrule
    exact absurd (hlisted rule hrule) hnot
  | @write _ _ ids hids numbered added result hassign hadded hrefused hinsert hrules =>
    have hmem : ∀ rule : Rule, rule ∈ host'.rulesOf family ↔
        rule ∈ added ∨ rule ∈ host.rulesOf family ∧ rule.id ∉ ids :=
      fun rule => mem_rulesOf_of_write hassign hadded hinsert hrules
    have hcarries : host'.Carries family rules := by
      refine ⟨numbered, hassign, fun rule hrule => ?_, fun rule hrule => ?_⟩
      · rcases (hmem rule).1 hrule with hrule | ⟨hrule, hnot⟩
        · exact hadded rule hrule
        · obtain ⟨numbered', hassign', hmem'⟩ := hknows rule hrule hnot
          obtain rfl : numbered = numbered' := Except.ok.inj (hassign.symm.trans hassign')
          exact hmem'
      · rw [hmem, MayRefuse.congr hmanner]
        exact (hrefused rule hrule).imp_left .inl
    exact ⟨hcarries, .inr hcarries⟩

end Turns

section Replace

variable {manner : RuleHost} {family : RuleFamily} {rules numbered : List Rule}

/-- What an answer to a submission tells: the rules are there, or those that it names are refused. -/
def Answers (manner : RuleHost) {ids : List Nat} (hids : ∀ id ∈ ids, family.contains id = true)
    (submitted : List Rule) : Except HostError Unit → Turnover family → Prop
  | .ok (), stage => stage = .replaced
  | .error (.failed _), stage => stage = .listed ids hids
  | .error (.rejected refused _), stage => stage = .listed ids hids ∧
    ∀ rule ∈ submitted, rule.id ∈ refused → manner.MayRefuse rule

theorem follows_updateRules (hassign : family.assign rules = .ok numbered) {ids : List Nat}
    (hids : ∀ id ∈ ids, family.contains id = true) {submitted : List Rule}
    (hwithin : ∀ rule ∈ submitted, rule ∈ numbered)
    (hrefused : ∀ rule ∈ numbered, rule ∈ submitted ∨ manner.MayRefuse rule) :
    (Task.act (updateRules family.isSession ids submitted)).Follows (replacing manner family rules)
      (Answers manner hids submitted) (.listed ids hids) := by
  refine Task.follows_act fun host hmanner => ?_
  have hsame := sameManner_updateRules family.isSession ids submitted host
  obtain ⟨-, hone⟩ := updateRules_all_or_nothing family.isSession ids submitted host
  cases hanswer : (updateRules family.isSession ids submitted host).1 with
  | ok found =>
    rw [hanswer] at hone
    obtain ⟨result, hinsert, hrules⟩ := hone
    exact ⟨.replaced, ⟨hsame, .write hids hassign hwithin hrefused hinsert hrules⟩, rfl⟩
  | error error =>
    rw [hanswer] at hone
    refine ⟨.listed ids hids, ⟨hsame, .stay hone⟩, ?_⟩
    cases error with
    | failed reason => exact rfl
    | rejected refused reason =>
      refine ⟨rfl, fun rule hrule hid => (MayRefuse.congr hmanner).1 ?_⟩
      refine mayRefuse_of_rejected hanswer (fun a ha b hb => ?_) hrule hid
      exact RuleFamily.eq_of_assign hassign (hwithin a ha) (hwithin b hb)

/-- A replacement that has written is one that succeeds. -/
def Comes {α : Type} (result : Except Failure α) (stage : Turnover family) : Prop :=
  stage = .replaced ↔ result.isOk = true

theorem comes_error {α : Type} {stage : Turnover family} (h : stage ≠ .replaced) (cause : Failure) :
    Comes (.error cause : Except Failure α) stage := iff_of_false h Bool.false_ne_true

theorem Comes.ne_replaced {α : Type} {stage : Turnover family} {cause : Failure}
    (h : Comes (.error cause : Except Failure α) stage) : stage ≠ .replaced :=
  fun heq => Bool.false_ne_true (h.1 heq)

/-- The rules are submitted until they are taken or there is no help. -/
theorem follows_submit (hassign : family.assign rules = .ok numbered) {ids : List Nat}
    (hids : ∀ id ∈ ids, family.contains id = true) (submitted : List Rule)
    (hwithin : ∀ rule ∈ submitted, rule ∈ numbered)
    (hrefused : ∀ rule ∈ numbered, rule ∈ submitted ∨ manner.MayRefuse rule) :
    (submit family.isSession ids submitted).Follows (replacing manner family rules) Comes
      (.listed ids hids) := by
  induction hlength : submitted.length using Nat.strongRecOn generalizing submitted with
  | ind n ih =>
    rw [submit]
    refine (follows_updateRules hassign hids hwithin hrefused).bind fun answer stage hanswer => ?_
    rcases answer with error | _
    · cases error with
      | failed reason =>
        obtain rfl : stage = .listed ids hids := hanswer
        exact Task.follows_pure (comes_error Turnover.listed_ne _)
      | rejected refused reason =>
        obtain ⟨rfl, hnamed⟩ := hanswer
        dsimp only
        split
        · exact Task.follows_pure (comes_error Turnover.listed_ne _)
        · next hsome =>
          have hless := length_keptOf_lt hsome
          have hrest := ih _ (hlength ▸ hless) (keptOf refused submitted)
            (fun rule hrule => hwithin rule (List.mem_filter.1 hrule).1) (fun rule hrule => ?_) rfl
          · refine hrest.bind fun rest stage hcomes => Task.follows_pure (hcomes.trans ?_)
            cases rest <;> rfl
          · rcases hrefused rule hrule with hsubmitted | hrefuses
            · by_cases hid : rule.id ∈ refused
              · exact .inr (hnamed rule hsubmitted hid)
              · exact .inl (List.mem_filter.2 ⟨hsubmitted, by simp [hid]⟩)
            · exact .inr hrefuses
    · exact Task.follows_pure (iff_of_true hanswer rfl)

/-- What is known once the host was asked for the numbers that are taken. -/
def Lists (result : Except Failure (List Nat)) (stage : Turnover family) : Prop :=
  match result with
  | .ok ids => ∃ hids, stage = .listed ids hids
  | .error _ => stage = .begun

theorem follows_idsOf (manner : RuleHost) (family : RuleFamily) (rules : List Rule) :
    (idsOf family).run.Follows (replacing manner family rules) Lists .begun := by
  have hcall : (call (listRules family.isSession)).run.Follows (replacing manner family rules)
      (fun result stage => Lists (result.map fun rules => (rules.map (·.id)).filter family.contains)
        stage) .begun := by
    refine Task.follows_act fun host hmanner => ?_
    unfold listRules serve
    dsimp only
    split
    · exact ⟨.begun, ⟨⟨rfl, rfl, Nat.le_refl _⟩, .stay fun _ => rfl⟩, rfl⟩
    · have hids : ∀ id ∈ ((host.rules family.isSession).map (·.id)).filter family.contains,
          family.contains id = true := fun id hid => (List.mem_filter.1 hid).2
      refine ⟨.listed _ hids, ⟨⟨rfl, rfl, Nat.le_refl _⟩, .list hids ?_ fun _ => rfl⟩, hids, rfl⟩
      intro rule hrule
      obtain ⟨hrule, hcontains⟩ := List.mem_filter.1 hrule
      exact List.mem_filter.2 ⟨List.mem_map_of_mem hrule, hcontains⟩
  exact hcall.except_bind (fun rules stage h => Task.follows_pure h) fun cause stage h => h

/-- The steps of a replacement: it looks, then it writes or fails. -/
theorem follows_replace (manner : RuleHost) (family : RuleFamily) (rules : List Rule) :
    (replace family rules).run.Follows (replacing manner family rules) Comes .begun := by
  unfold replace
  cases hassign : family.assign rules with
  | error overflow => exact Task.follows_pure (comes_error Turnover.begun_ne _)
  | ok numbered =>
    change Task.Follows _ _ (ExceptT.run (idsOf family >>= _)) _
    refine (follows_idsOf manner family rules).except_bind (fun ids stage hlisted => ?_) ?_
    · obtain ⟨hids, rfl⟩ := hlisted
      have hsubmit := @follows_submit manner family rules numbered hassign ids hids numbered
        (fun _ h => h) fun _ h => .inl h
      refine Task.Follows.except_bind hsubmit (fun submission stage hstage => ?_) fun cause stage h => ?_
      · exact Task.follows_pure (iff_of_true (hstage.2 rfl) rfl)
      · exact comes_error h.ne_replaced cause
    · rintro cause stage ⟨⟩
      exact comes_error Turnover.begun_ne cause

end Replace

end RuleHost

end ContentFilter
