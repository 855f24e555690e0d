import ContentFilter.Proofs.Task
import ContentFilter.Rule.Replace

/-! Replacing a family leaves exactly its new rules in its range, less those that the host refused,
and every other range as it was. A replacement that fails changes no range. -/

namespace ContentFilter

namespace RuleTable

variable {p : Rule → Bool}

/-- A rule goes behind all that have no higher number, up to the first that has. -/
theorem insert_eq (rule : Rule) (rules : List Rule) : ∃ before after, rules = before ++ after ∧
    insert rule rules = before ++ rule :: after ∧ ∀ other ∈ before, other.id ≤ rule.id := by
  induction rules with
  | nil => exact ⟨[], [], rfl, rfl, by simp⟩
  | cons other rest ih =>
    rw [insert]
    split
    · exact ⟨[], other :: rest, rfl, rfl, by simp⟩
    · next hnot =>
      obtain ⟨before, after, hrest, hinsert, hbefore⟩ := ih
      refine ⟨other :: before, after, by rw [hrest]; rfl, by rw [hinsert]; rfl, ?_⟩
      intro found hfound
      rcases List.mem_cons.1 hfound with rfl | hfound
      · omega
      · exact hbefore found hfound

theorem insert_append {rule : Rule} {front : List Rule} (h : ∀ other ∈ front, other.id ≤ rule.id)
    (back : List Rule) : insert rule (front ++ back) = front ++ insert rule back := by
  induction front with
  | nil => rfl
  | cons other front ih =>
    have hother := h other (by simp)
    rw [List.cons_append, insert, if_neg (by omega), ih fun found hfound => h found (by simp [hfound])]
    rfl

theorem filter_insert_of_neg {rule : Rule} (h : p rule = false) (rules : List Rule) :
    (insert rule rules).filter p = rules.filter p := by
  obtain ⟨before, after, hrules, hinsert, -⟩ := insert_eq rule rules
  rw [hinsert, hrules, List.filter_append, List.filter_append,
    List.filter_cons_of_neg (by simp [h])]

/-- Rules of other ranges stay when rules are added. -/
theorem filter_insertAll_of_neg {base added result : List Rule} (h : ∀ rule ∈ added, p rule = false)
    (hresult : insertAll base added = .ok result) : result.filter p = base.filter p := by
  induction added generalizing base with
  | nil =>
    cases hresult
    rfl
  | cons rule added ih =>
    rw [insertAll, List.foldlM_cons] at hresult
    split at hresult
    · cases hresult
    · have hrest := ih (fun other hother => h other (by simp [hother])) hresult
      rw [hrest, filter_insert_of_neg (h rule (by simp))]

/-- Rules of one range that are added in the order of their numbers stand in that order. -/
theorem filter_insertAll_of_pos {base added result : List Rule} (hbase : base.filter p = [])
    (h : ∀ rule ∈ added, p rule = true) (horder : added.Pairwise fun a b => a.id ≤ b.id)
    (hresult : insertAll base added = .ok result) : result.filter p = added := by
  -- what is in front of the last added rule has no higher number than it
  have hrest : ∀ (added done front back : List Rule), (∀ rule ∈ added, p rule = true) →
      added.Pairwise (fun a b => a.id ≤ b.id) →
      (∀ rule ∈ added, ∀ other ∈ front, other.id ≤ rule.id) → front.filter p = done →
      back.filter p = [] → insertAll (front ++ back) added = .ok result →
      result.filter p = done ++ added := by
    intro added
    induction added with
    | nil =>
      intro done front back _ _ _ hfront hback hresult
      cases hresult
      rw [List.filter_append, hfront, hback]
    | cons rule added ih =>
      intro done front back h horder hless hfront hback hresult
      obtain ⟨hrule, horder⟩ := List.pairwise_cons.1 horder
      rw [insertAll, List.foldlM_cons] at hresult
      split at hresult
      · cases hresult
      obtain ⟨before, after, rfl, hinsert, hbefore⟩ := insert_eq rule back
      rw [List.filter_append, List.append_eq_nil_iff] at hback
      have hnext : insertAll (front ++ before ++ [rule] ++ after) added = .ok result := by
        rw [insert_append (hless rule (by simp)), hinsert] at hresult
        rw [List.append_assoc, List.append_assoc, List.singleton_append]
        exact hresult
      have hfound := ih (done ++ [rule]) (front ++ before ++ [rule]) after
        (fun other hother => h other (by simp [hother])) horder ?_ ?_ hback.2 hnext
      · rw [hfound, List.append_assoc, List.singleton_append]
      · intro other hother found hfound
        have hle := hrule other hother
        simp only [List.mem_append, List.mem_singleton] at hfound
        rcases hfound with (hfound | hfound) | rfl
        · exact Nat.le_trans (hless rule (by simp) found hfound) hle
        · exact Nat.le_trans (hbefore found hfound) hle
        · exact hle
      · rw [List.filter_append, List.filter_append, hfront, hback.1, List.append_nil,
          List.filter_cons_of_pos (h rule (by simp)), List.filter_nil]
  exact hrest added [] [] base h horder (fun _ _ _ => nofun) rfl hbase hresult

end RuleTable

namespace RuleFamily

/-- The numbers of a numbered family lie in its range and go up. -/
theorem assign_ordered {family : RuleFamily} {rules numbered : List Rule}
    (h : family.assign rules = .ok numbered) :
    (∀ rule ∈ numbered, family.contains rule.id = true) ∧
      numbered.Pairwise fun a b => a.id < b.id := by
  unfold assign at h
  split at h
  · cases h
  next hfit =>
  cases h
  constructor
  · intro rule hrule
    obtain ⟨⟨other, i⟩, hmem, rfl⟩ := List.mem_map.1 hrule
    have hi := List.snd_lt_of_mem_zipIdx hmem
    have hcapacity : family.stop = family.start + family.capacity := by cases family <;> rfl
    simp only [contains, Bool.and_eq_true, decide_eq_true_eq]
    omega
  · rw [List.pairwise_map, List.pairwise_iff_getElem]
    intro i j hi hj hij
    simp only [List.getElem_zipIdx]
    omega

/-- The rules are numbered one after another from the start of the range. -/
theorem map_id_assign {family : RuleFamily} {rules numbered : List Rule}
    (h : family.assign rules = .ok numbered) :
    numbered.map (·.id) = List.range' family.start rules.length := by
  rw [assign] at h
  split at h
  · cases h
  cases h
  have hnumber : (fun rule : Rule => rule.id) ∘ (fun pair : Rule × Nat =>
      { pair.1 with id := family.start + pair.2 }) = (family.start + ·) ∘ Prod.snd := rfl
  rw [List.map_map]
  change rules.zipIdx.map ((fun rule : Rule => rule.id) ∘ fun pair : Rule × Nat =>
      { pair.1 with id := family.start + pair.2 }) = _
  rw [hnumber, ← List.map_map, List.zipIdx_map_snd, List.map_add_range', Nat.add_zero]

end RuleFamily

namespace RuleHost

/-- What no change of rules touches. -/
structure SameShelf (host host' : RuleHost) : Prop where
  enabled : host'.enabled = host.enabled
  available : host'.available = host.available
  unsupported : host'.unsupportedRegexes = host.unsupportedRegexes

theorem SameShelf.refl (host : RuleHost) : SameShelf host host := ⟨rfl, rfl, rfl⟩

theorem SameShelf.trans {a b c : RuleHost} (hab : SameShelf a b) (hbc : SameShelf b c) :
    SameShelf a c :=
  ⟨hbc.enabled.trans hab.enabled, hbc.available.trans hab.available,
    hbc.unsupported.trans hab.unsupported⟩

/-- The rules of a family are exactly these, numbered from the start of its range, less the refused
ones. -/
def Holds (host : RuleHost) (family : RuleFamily) (rules : List Rule)
    (rejected : List RejectedRule) : Prop :=
  ∃ numbered, family.assign rules = .ok numbered ∧
    host.rulesOf family = numbered.filter fun rule => rule ∉ rejected.map (·.rule)

theorem rules_setRules (host : RuleHost) (a b : Bool) (rules : List Rule) :
    (host.setRules a rules).rules b = if a = b then rules else host.rules b := by
  cases a <;> cases b <;> rfl

/-- What one update of rules does: all of it or nothing. -/
theorem updateRules_all_or_nothing (isSession : Bool) (removed : List Nat) (added : List Rule)
    (host : RuleHost) :
    SameShelf host (updateRules isSession removed added host).2 ∧
      match (updateRules isSession removed added host).1 with
      | .ok () => ∃ rules,
        RuleTable.insertAll (RuleTable.remove removed (host.rules isSession)) added = .ok rules ∧
          ∀ b, (updateRules isSession removed added host).2.rules b =
            if isSession = b then rules else host.rules b
      | .error _ => ∀ b, (updateRules isSession removed added host).2.rules b = host.rules b := by
  unfold updateRules serve
  dsimp only
  split
  · exact ⟨⟨rfl, rfl, rfl⟩, fun b => rfl⟩
  split
  · exact ⟨⟨rfl, rfl, rfl⟩, fun b => rfl⟩
  split
  · next rules hrules =>
    unfold updated at hrules
    dsimp only at hrules
    split at hrules
    · refine ⟨by cases isSession <;> exact ⟨rfl, rfl, rfl⟩, rules, hrules, fun b => ?_⟩
      exact rules_setRules _ isSession b rules
    · cases hrules
  · exact ⟨⟨rfl, rfl, rfl⟩, fun b => rfl⟩

theorem log_updateRules (isSession : Bool) (removed : List Nat) (added : List Rule) (host : RuleHost) :
    (updateRules isSession removed added host).2.log =
      .updateRules isSession removed added :: host.log := by
  unfold updateRules serve
  dsimp only
  split
  · rfl
  split
  · rfl
  split
  · cases isSession <;> rfl
  · rfl

/-- The refused rules and those refused later are left out together. -/
theorem filter_keptOf (ids : List Nat) (rules : List Rule) (reason : String)
    (rest : List RejectedRule) :
    (keptOf ids rules).filter (fun rule => rule ∉ rest.map (·.rule)) =
      rules.filter fun rule => rule ∉ ((refusedOf ids rules).map (fun rule =>
        (⟨rule, reason⟩ : RejectedRule)) ++ rest).map (·.rule) := by
  have hback : ((refusedOf ids rules).map fun rule => (⟨rule, reason⟩ : RejectedRule)).map
      (·.rule) = refusedOf ids rules := by
    rw [List.map_map]
    exact List.map_id _
  rw [keptOf, List.filter_filter, List.map_append, hback]
  refine List.filter_congr fun rule hrule => ?_
  have hrefused : rule ∈ refusedOf ids rules ↔ ids.contains rule.id = true := by
    simp [refusedOf, hrule]
  rw [Bool.eq_iff_iff, Bool.and_eq_true, decide_eq_true_eq, decide_eq_true_eq, List.mem_append,
    not_or, hrefused, Bool.not_eq_true', Bool.not_eq_true]
  exact and_comm

/-- These rules stand on the host in place of the removed ones, and with the refused ones they are all
that were submitted. -/
structure Submission.Settles (submission : Submission) (isSession : Bool) (removed : List Nat)
    (rules : List Rule) (host host' : RuleHost) : Prop where
  perm : (submission.added ++ submission.rejected.map (·.rule)).Perm rules
  added : submission.added = rules.filter (fun rule => rule ∉ submission.rejected.map (·.rule))
  stands : ∃ rules', RuleTable.insertAll (RuleTable.remove removed (host.rules isSession))
      submission.added = .ok rules' ∧
    ∀ b, host'.rules b = if isSession = b then rules' else host.rules b

/-- Submitting rules comes to an end after one call more than rules at most: all that were not refused
stand in place of the removed ones, or nothing was changed. -/
theorem ends_submit (isSession : Bool) (removed : List Nat) (rules : List Rule) (host : RuleHost) :
    (submit isSession removed rules).Ends host fun result host' =>
      SameShelf host host' ∧ host'.log.length ≤ host.log.length + rules.length + 1 ∧
      match result with
      | .ok submission => submission.Settles isSession removed rules host host'
      | .error _ => ∀ b, host'.rules b = host.rules b := by
  induction hlength : rules.length using Nat.strongRecOn generalizing rules host with
  | ind n ih =>
    obtain ⟨hshelf, hone⟩ := updateRules_all_or_nothing isSession removed rules host
    have hlog := congrArg List.length (log_updateRules isSession removed rules host)
    rw [List.length_cons] at hlog
    rw [submit]
    refine Task.ends_bind (Task.ends_act ?_)
    cases hanswer : (updateRules isSession removed rules host).1 with
    | ok found =>
      rw [hanswer] at hone
      refine Task.ends_pure ⟨hshelf, by omega, ?_, ?_, hone⟩
      · rw [List.map_nil, List.append_nil]
      · exact (List.filter_eq_self.2 fun rule _ => by simp).symm
    | error error =>
      rw [hanswer] at hone
      cases error with
      | failed reason => exact Task.ends_pure ⟨hshelf, by omega, hone⟩
      | rejected ids reason =>
        dsimp only
        split
        · exact Task.ends_pure ⟨hshelf, by omega, hone⟩
        next hrefused =>
        have hless := length_keptOf_lt hrefused
        refine Task.ends_bind ((ih _ (hlength ▸ hless) _ _ rfl).mono fun rest host' hrest => ?_)
        obtain ⟨hshelf', hlog', hrest⟩ := hrest
        refine Task.ends_pure ⟨hshelf.trans hshelf', by omega, ?_⟩
        cases rest with
        | error cause => exact fun b => (hrest b).trans (hone b)
        | ok rest =>
          obtain ⟨rules', hinsert, hrules⟩ := hrest.stands
          rw [hone] at hinsert
          refine ⟨?_, hrest.added.trans (filter_keptOf ids rules reason rest.rejected), rules',
            hinsert, fun b => by rw [hrules b, hone b]⟩
          have hrefusals : ((refusedOf ids rules).map fun rule =>
              (⟨rule, reason⟩ : RejectedRule)).map (·.rule) = refusedOf ids rules := by
            rw [List.map_map]
            exact List.map_id _
          rw [List.map_append, hrefusals]
          exact (List.perm_append_comm_assoc _ _ _).trans
            ((hrest.perm.append_left _).trans (List.filter_append_perm _ rules))

/-- The host keeps all its rules and rule sets. -/
structure Same (host host' : RuleHost) : Prop extends SameShelf host host' where
  rules : ∀ b, host'.rules b = host.rules b

theorem Same.refl (host : RuleHost) : Same host host := ⟨.refl host, fun _ => rfl⟩

theorem Same.trans {a b c : RuleHost} (hab : Same a b) (hbc : Same b c) : Same a c :=
  ⟨hab.toSameShelf.trans hbc.toSameShelf,
    fun session => (hbc.rules session).trans (hab.rules session)⟩

theorem Same.rulesOf {host host' : RuleHost} (h : Same host host') (family : RuleFamily) :
    host'.rulesOf family = host.rulesOf family := by
  rw [RuleHost.rulesOf, h.rules]
  rfl

/-- A question to the host is answered from what it has, unless it is refused, and changes nothing. -/
theorem ends_question {α : Type} (question : HostCall) (value : RuleHost → α) (host : RuleHost)
    (hvalue : ∀ host', Same host host' → value host' = value host) :
    (call (serve question fun host => (.ok (value host), host))).run.Ends host
      fun result host' => Same host host' ∧ ∀ a, result = .ok a → a = value host := by
  refine Task.ends_act ?_
  unfold serve
  dsimp only
  split
  · exact ⟨⟨⟨rfl, rfl, rfl⟩, fun _ => rfl⟩, nofun⟩
  · refine ⟨⟨⟨rfl, rfl, rfl⟩, fun _ => rfl⟩, fun a ha => ?_⟩
    cases ha
    exact hvalue _ ⟨⟨rfl, rfl, rfl⟩, fun _ => rfl⟩

theorem ends_idsOf (family : RuleFamily) (host : RuleHost) :
    (idsOf family).run.Ends host fun result host' => Same host host' ∧
      ∀ ids, result = .ok ids →
        ids = ((host.rules family.isSession).map (·.id)).filter family.contains := by
  refine Task.ends_except_bind ?_
  refine (ends_question _ (·.rules family.isSession) host fun _ h => h.rules _).mono
    fun result host' hresult => ?_
  obtain ⟨hsame, hrules⟩ := hresult
  cases result with
  | ok rules =>
    obtain rfl := hrules rules rfl
    exact Task.ends_pure ⟨hsame, fun ids hids => (Except.ok.inj hids).symm⟩
  | error cause => exact ⟨hsame, nofun⟩

theorem ends_idsOf_log (family : RuleFamily) (host : RuleHost) :
    (idsOf family).run.Ends host fun _ host' => host'.log = .rules family.isSession :: host.log := by
  refine Task.ends_except_bind (Task.ends_act ?_)
  rw [listRules, serve]
  cases host.refuse host.log.length (.rules family.isSession) with
  | none => exact Task.ends_pure rfl
  | some error => rfl

theorem filter_remove_self (family : RuleFamily) (rules : List Rule) :
    (RuleTable.remove ((rules.map (·.id)).filter family.contains) rules).filter
      (fun rule => family.contains rule.id) = [] := by
  rw [RuleTable.remove, List.filter_filter, List.filter_eq_nil_iff]
  intro rule hrule
  cases hcontains : family.contains rule.id with
  | false => simp
  | true =>
    have hmem : rule.id ∈ (rules.map (·.id)).filter family.contains :=
      List.mem_filter.2 ⟨List.mem_map_of_mem hrule, hcontains⟩
    simp [hmem]

theorem filter_remove_other {family other : RuleFamily} (hne : other ≠ family) (rules : List Rule) :
    (RuleTable.remove ((rules.map (·.id)).filter family.contains) rules).filter
      (fun rule => other.contains rule.id) = rules.filter fun rule => other.contains rule.id := by
  rw [RuleTable.remove, List.filter_filter]
  refine List.filter_congr fun rule _ => ?_
  cases hcontains : other.contains rule.id with
  | false => simp
  | true =>
    have hnot : rule.id ∉ (rules.map (·.id)).filter family.contains := by
      intro hmem
      exact hne (RuleFamily.eq_of_contains hcontains (List.mem_filter.1 hmem).2)
    simp [hnot]

/-- To remove numbers of a range leaves the rules outside of it. -/
theorem filter_remove_outside {family : RuleFamily} {removed : List Nat}
    (hremoved : ∀ id ∈ removed, family.contains id = true) (rules : List Rule) :
    (RuleTable.remove removed rules).filter (fun rule => !family.contains rule.id) =
      rules.filter fun rule => !family.contains rule.id := by
  rw [RuleTable.remove, List.filter_filter]
  refine List.filter_congr fun rule _ => ?_
  cases hcontains : family.contains rule.id with
  | true => rfl
  | false =>
    have hkept : rule.id ∉ removed := fun hmem => by simp [hremoved rule.id hmem] at hcontains
    simp [hkept]

/-- What a replacement comes to, through what its submission came to. -/
theorem ends_replace_settles (family : RuleFamily) (rules : List Rule) (host : RuleHost) :
    (replace family rules).run.Ends host fun result host' =>
      SameShelf host host' ∧ host'.log.length ≤ host.log.length + rules.length + 2 ∧
      match result with
      | .ok report => ∃ (numbered : List Rule) (submission : Submission),
        family.assign rules = .ok numbered ∧
        submission.Settles family.isSession
          (((host.rules family.isSession).map (·.id)).filter family.contains) numbered host host' ∧
        report = ⟨family, (host.rulesOf family).length, submission.added.length, submission.rejected⟩
      | .error _ => ∀ b, host'.rules b = host.rules b := by
  refine Task.ends_except_bind (Task.ends_pure ?_)
  cases hassign : family.assign rules with
  | error overflow => exact ⟨.refl host, by omega, fun _ => rfl⟩
  | ok numbered =>
    have hlength := congrArg List.length (RuleFamily.map_id_assign hassign)
    rw [List.length_map, List.length_range'] at hlength
    refine Task.ends_except_bind
      (((ends_idsOf family host).and (ends_idsOf_log family host)).mono fun result host' hresult => ?_)
    obtain ⟨⟨hsame, hids⟩, hlog⟩ := hresult
    have hlog := congrArg List.length hlog
    rw [List.length_cons] at hlog
    cases result with
    | error cause => exact ⟨hsame.toSameShelf, by omega, hsame.rules⟩
    | ok removed =>
      obtain rfl := hids removed rfl
      refine Task.ends_except_bind ?_
      refine (ends_submit family.isSession _ numbered host').mono fun result host'' hresult => ?_
      obtain ⟨hshelf, hlog', hresult⟩ := hresult
      have hshelf := hsame.toSameShelf.trans hshelf
      cases result with
      | error cause => exact ⟨hshelf, by omega, fun b => (hresult b).trans (hsame.rules b)⟩
      | ok submission =>
        obtain ⟨rules', hinsert, hrules⟩ := hresult.stands
        rw [hsame.rules] at hinsert
        refine Task.ends_pure ⟨hshelf, by omega, numbered, submission, rfl,
          ⟨hresult.perm, hresult.added, rules', hinsert, fun b => ?_⟩, ?_⟩
        · rw [hrules b, hsame.rules]
        · rw [rulesOf, List.filter_map, List.length_map]
          rfl

/-- What a replacement does to the rules of the host: all that were not refused stand in place of
those in the range, or nothing was changed. -/
theorem ends_replace_exact (family : RuleFamily) (rules : List Rule) (host : RuleHost) :
    (replace family rules).run.Ends host fun result host' =>
      SameShelf host host' ∧ match result with
      | .ok report => report.family = family ∧ ∃ numbered rules',
        family.assign rules = .ok numbered ∧
        RuleTable.insertAll
          (RuleTable.remove (((host.rules family.isSession).map (·.id)).filter family.contains)
            (host.rules family.isSession))
          (numbered.filter fun rule => rule ∉ report.rejected.map (·.rule)) = .ok rules' ∧
        ∀ b, host'.rules b = if family.isSession = b then rules' else host.rules b
      | .error _ => ∀ b, host'.rules b = host.rules b := by
  refine (ends_replace_settles family rules host).mono fun result host' hresult => ?_
  obtain ⟨hshelf, -, hresult⟩ := hresult
  refine ⟨hshelf, ?_⟩
  cases result with
  | error cause => exact hresult
  | ok report =>
    obtain ⟨numbered, submission, hassign, hsettles, rfl⟩ := hresult
    obtain ⟨rules', hinsert, hrules⟩ := hsettles.stands
    rw [hsettles.added] at hinsert
    exact ⟨rfl, numbered, rules', hassign, hinsert, hrules⟩

/-- A replaced family holds its new rules less the refused ones; a failure leaves it as it was. No
other family notices. -/
theorem ends_replace (family : RuleFamily) (rules : List Rule) (host : RuleHost) :
    (replace family rules).run.Ends host fun result host' =>
      SameShelf host host' ∧ (∀ other ≠ family, host'.rulesOf other = host.rulesOf other) ∧
      match result with
      | .ok report => report.family = family ∧ host'.Holds family rules report.rejected
      | .error _ => host'.rulesOf family = host.rulesOf family := by
  refine (ends_replace_exact family rules host).mono fun result host' hresult => ?_
  obtain ⟨hshelf, hresult⟩ := hresult
  cases result with
  | error cause =>
    have hrules : ∀ other, host'.rulesOf other = host.rulesOf other := by
      intro other
      rw [rulesOf, hresult]
      rfl
    exact ⟨hshelf, fun other _ => hrules other, hrules family⟩
  | ok report =>
    obtain ⟨hfamily, numbered, rules', hassign, hinsert, hrules⟩ := hresult
    obtain ⟨hrange, horder⟩ := RuleFamily.assign_ordered hassign
    refine ⟨hshelf, fun other hne => ?_, hfamily, numbered, hassign, ?_⟩
    · rw [rulesOf, hrules other.isSession]
      split
      · next hsession =>
        have hout : ∀ rule ∈ numbered.filter (fun rule => rule ∉ report.rejected.map (·.rule)),
            other.contains rule.id = false := by
          intro rule hrule
          cases hcontains : other.contains rule.id with
          | false => rfl
          | true =>
            have hmem := (List.mem_filter.1 hrule).1
            exact absurd (RuleFamily.eq_of_contains hcontains (hrange rule hmem)) hne
        rw [RuleTable.filter_insertAll_of_neg hout hinsert, filter_remove_other hne, hsession]
        rfl
      · rfl
    · rw [rulesOf, hrules family.isSession, if_pos rfl]
      refine RuleTable.filter_insertAll_of_pos (filter_remove_self family _)
        (fun rule hrule => hrange rule (List.mem_filter.1 hrule).1) ?_ hinsert
      exact (horder.imp fun h => Nat.le_of_lt h).filter _

end RuleHost

end ContentFilter

/-! The report of a replacement accounts for every rule. Whatever the host refuses, and how often, a
replacement ends: with all that was not refused in the range, or with nothing changed. -/

namespace ContentFilter

namespace RuleFamily

/-- The rules with the numbers from the start of the range on. -/
def numbered (family : RuleFamily) (rules : List Rule) : List Rule :=
  rules.zipIdx.map fun (rule, i) => { rule with id := family.start + i }

theorem assign_eq_ok_iff {family : RuleFamily} {rules given : List Rule} :
    family.assign rules = .ok given ↔
      rules.length ≤ family.capacity ∧ given = family.numbered rules := by
  rw [assign, numbered]
  split
  · next hover => simp [Nat.not_le.2 hover]
  · next hfit => simp [Nat.not_lt.1 hfit, eq_comm]

@[simp] theorem length_numbered (family : RuleFamily) (rules : List Rule) :
    (family.numbered rules).length = rules.length := by
  rw [numbered, List.length_map, List.length_zipIdx]

end RuleFamily

namespace RuleHost

/-- What a report says is what happened: the old rules of the range were removed, of the new ones, as
numbered, those that were not refused are there, and nothing else was touched. -/
structure Accounts (report : FamilyReport) (family : RuleFamily) (rules : List Rule)
    (host host' : RuleHost) : Prop where
  names : report.family = family
  removed : report.removed = (host.rulesOf family).length
  fits : rules.length ≤ family.capacity
  held : host'.rulesOf family =
    (family.numbered rules).filter fun rule => rule ∉ report.rejected.map (·.rule)
  /-- Every rule is either held or reported, and none is both or reported twice. -/
  perm : (host'.rulesOf family ++ report.rejected.map (·.rule)).Perm (family.numbered rules)
  added : report.added = (host'.rulesOf family).length
  total : report.added + report.rejected.length = rules.length
  outside : (host'.rules family.isSession).filter (fun rule => !family.contains rule.id) =
    (host.rules family.isSession).filter fun rule => !family.contains rule.id
  elsewhere : host'.rules (!family.isSession) = host.rules (!family.isSession)

theorem Submission.Settles.accounts {submission : Submission} {family : RuleFamily}
    {rules numbered : List Rule} {host host' : RuleHost}
    (h : submission.Settles family.isSession
      (((host.rules family.isSession).map (·.id)).filter family.contains) numbered host host')
    (hassign : family.assign rules = .ok numbered)
    (hheld : host'.Holds family rules submission.rejected) :
    Accounts ⟨family, (host.rulesOf family).length, submission.added.length, submission.rejected⟩
      family rules host host' := by
  obtain ⟨numbered', hassign', hheld⟩ := hheld
  obtain rfl : numbered = numbered' := Except.ok.inj (hassign.symm.trans hassign')
  have hrange := (RuleFamily.assign_ordered hassign).1
  obtain ⟨hfits, rfl⟩ := RuleFamily.assign_eq_ok_iff.1 hassign
  have hadded : host'.rulesOf family = submission.added := hheld.trans h.added.symm
  obtain ⟨rules', hinsert, hrules⟩ := h.stands
  constructor
  case names => rfl
  case removed => rfl
  case fits => exact hfits
  case held => exact hheld
  case perm => exact hadded ▸ h.perm
  case added => exact congrArg List.length hadded.symm
  case total =>
    have hlength := h.perm.length_eq
    rw [List.length_append, List.length_map, RuleFamily.length_numbered] at hlength
    exact hlength
  case outside =>
    have hout : ∀ rule ∈ submission.added, (!family.contains rule.id) = false := by
      intro rule hrule
      rw [h.added] at hrule
      rw [hrange rule (List.mem_filter.1 hrule).1]
      rfl
    rw [hrules, if_pos rfl, RuleTable.filter_insertAll_of_neg hout hinsert,
      filter_remove_outside fun id hid => (List.mem_filter.1 hid).2]
  case elsewhere => rw [hrules, if_neg (by simp)]

/-- A replacement ends after two calls more than rules at most, whatever the host answers. Its report
accounts for the rules, and an error leaves the host as it was. -/
theorem replace_accounts (family : RuleFamily) (rules : List Rule) (host : RuleHost) :
    (replace family rules).run.Ends host fun result host' =>
      host'.log.length ≤ host.log.length + rules.length + 2 ∧ SameShelf host host' ∧
      match result with
      | .ok report => Accounts report family rules host host'
      | .error _ => Same host host' := by
  refine ((ends_replace_settles family rules host).and (ends_replace family rules host)).mono
    fun result host' hresult => ?_
  obtain ⟨⟨hshelf, hlog, hsettles⟩, -, -, hheld⟩ := hresult
  refine ⟨hlog, hshelf, ?_⟩
  cases result with
  | error cause => exact ⟨hshelf, hsettles⟩
  | ok report =>
    obtain ⟨numbered, submission, hassign, hsettles, rfl⟩ := hsettles
    exact hsettles.accounts hassign hheld.2

end RuleHost

end ContentFilter
