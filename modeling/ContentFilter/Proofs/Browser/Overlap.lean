import ContentFilter.Proofs.Browser.Allowances
import ContentFilter.Proofs.Rule.ExceptionsRace
import Mathlib.Data.List.Induction

/-! Calls that give and take back allowances at the same time. Each changes the allowances and notes
them, then asks the host which rules it has, then replaces those by rules for what it noted; between
these steps others take theirs. Which orders of the steps go well, whatever the calls are. -/

namespace ContentFilter

open RuleHost

/-- What happens next: another call starts, up to its first question to the host, or the host answers the
question or the update of a call that has started. -/
inductive Turn where
  | start
  | answer (call : Nat)
  deriving DecidableEq

/-- Calls that overlap, in the order in which they start. -/
structure Overlap where
  state : AllowanceState
  /-- What is left of each call that has started. -/
  started : List (Task AllowanceState (Except Failure Unit)) := []

namespace Overlap

/-- A call starts: it changes the allowances and notes them, without a word to the host. -/
def start (call : AllowanceCall) (overlap : Overlap) : Overlap where
  state := (call.task.turns 2 overlap.state).2
  started := overlap.started ++ [(call.task.turns 2 overlap.state).1]

def answer (call : Nat) (overlap : Overlap) : Overlap :=
  match overlap.started[call]?.bind (·.turn? overlap.state) with
  | some (rest, state) => { state, started := overlap.started.set call rest }
  | none => overlap

def next (calls : Nat → AllowanceCall) (overlap : Overlap) : Turn → Overlap
  | .start => overlap.start (calls overlap.started.length)
  | .answer call => overlap.answer call

def run (calls : Nat → AllowanceCall) (s : AllowanceState) (turns : List Turn) : Overlap :=
  turns.foldl (next calls) { state := s }

/-- Every call has returned without a failure, and the host has one rule for each of the allowances. -/
def IsWell (overlap : Overlap) : Prop :=
  (∀ task ∈ overlap.started, task = .done (.ok ())) ∧
    ∃ host, overlap.state.host = some host ∧ host.Allows overlap.state.allowances

end Overlap

/-- The numbers that the host has in the range of the allowances. -/
def RuleHost.allowanceIds (host : RuleHost) : List Nat :=
  ((host.rules true).map (·.id)).filter RuleFamily.redirectAllowOnce.contains

namespace AllowanceState

variable {s : AllowanceState} {host : RuleHost}

/-- What is left of a call is to replace the rules of these numbers. -/
def Updates (removed : List Nat) (rules : List Rule) (task : Task AllowanceState (Except Failure Unit)) :
    Prop :=
  ∀ (s : AllowanceState) (host : RuleHost), s.host = some host → task.turn? s =
    some (.done ((updateRules true removed rules host).1.mapError .host),
      { s with host := some (updateRules true removed rules host).2 })

/-- What is left of a call is to ask for the numbers in use and to put the rules in their place. -/
def Lists (rules : List Rule) (task : Task AllowanceState (Except Failure Unit)) : Prop :=
  ∀ (s : AllowanceState) (host : RuleHost), s.host = some host → host.Serves → ∃ rest,
    task.turn? s = some (rest, { s with host := some (listRules true host).2 }) ∧
      Updates host.allowanceIds rules rest

theorem lists_install {allowances : List Allowance} {rules : List Rule} (first : RuleHost)
    (hassign : RuleFamily.redirectAllowOnce.assign (allowances.map (·.rule)) = .ok rules) :
    Lists rules ((install allowances).run.within (·.host.getD first)
      fun host s => { s with host := some host }) := by
  rintro ⟨own, _⟩ host rfl hserves
  have hrun : (install allowances).run = (do
      let removed ← RuleHost.idsOf .redirectAllowOnce
      RuleHost.call (RuleHost.updateRules true removed rules) : ExceptT Failure (Task RuleHost) Unit).run := by
    rw [install, hassign]
    rfl
  have hlist : (listRules RuleFamily.redirectAllowOnce.isSession host).1 = .ok (host.rules true) :=
    (hserves.listRules true).1
  rw [hrun]
  refine ⟨_, rfl, ?_⟩
  dsimp only [Option.getD_some]
  rw [hlist]
  rintro ⟨own', _⟩ host' rfl
  rfl

/-- A call that starts is over when it finds nothing to change. Else it has changed and noted the
allowances, and the host comes next, unless there are too many. -/
theorem turns_task (call : AllowanceCall) (hhost : s.host = some host) :
    call.task.turns 2 s =
      if call.change s.allowances = s.allowances then (.done (.ok ()), s)
      else ((install (call.change s.allowances)).run.within (·.host.getD host)
        (fun host s => { s with host := some host }),
          { s with allowances := call.change s.allowances }) := by
  obtain ⟨own, _⟩ := s
  cases hhost
  rw [call.task_eq]
  by_cases hsame : call.change own = own
  · have hnone : (call.change own != own) = false := by simp [hsame]
    rw [if_pos hsame]
    change Task.turns 1 (if (call.change own != own) = true then sync else pure (.ok ()))
      ⟨call.change own, some host⟩ = _
    rw [hnone, hsame]
    rfl
  · have hsome : (call.change own != own) = true := by simp [hsame]
    rw [if_neg hsame]
    change Task.turns 1 (if (call.change own != own) = true then sync else pure (.ok ()))
      ⟨call.change own, some host⟩ = _
    rw [hsome]
    rfl

end AllowanceState

/-- How often the host has answered each of the calls that have started. -/
def Turn.count (answers : List Nat) : Turn → List Nat
  | .start => answers ++ [0]
  | .answer call => answers.set call (answers[call]?.getD 0 + 1)

def answersOf (turns : List Turn) : List Nat := turns.foldl Turn.count []

/-- Every call that starts comes to its end: the host lists its rules for it, and then takes its update.
-/
def IsComplete (turns : List Turn) : Prop := ∀ answers ∈ answersOf turns, 2 ≤ answers

/-- The host lists its rules for a call only when it has taken the updates of all that started before. -/
def IsOrderly (turns : List Turn) : Prop :=
  ∀ before call after, turns = before ++ .answer call :: after → (answersOf before)[call]? = some 0 →
    ∀ answers ∈ (answersOf before).take call, 2 ≤ answers

namespace Overlap

/-- In that order of the steps all goes well, whichever calls they are, as long as they concern
different tabs and there is room for their rules. -/
def IsSafe (turns : List Turn) : Prop :=
  ∀ (calls : Nat → AllowanceCall) (s : AllowanceState) (host : RuleHost),
    Function.Injective (fun n => (calls n).tab) → s.host = some host → host.Serves →
    host.Allows s.allowances →
    (∀ n ≤ (answersOf turns).length,
      (AllowanceCall.changes calls s.allowances n).length ≤ RuleFamily.redirectAllowOnce.capacity) →
    (run calls s turns).IsWell

/-- How far a call is. -/
inductive Stage where
  | ended
  /-- It has noted these allowances and is to ask the host. -/
  | lists (noted : List Allowance)
  /-- It is to replace the rules of these numbers by those for what it noted. -/
  | updates (noted : List Allowance) (removed : List Nat)

/-- What the rules of the call will be for. -/
def Stage.noted? : Stage → Option (List Allowance)
  | ended => none
  | lists noted => some noted
  | updates noted _ => some noted

/-- What the host will have rules for when all calls are over, if they end in the order in which they
started. -/
def newest (served : List Allowance) (stages : List Stage) : List Allowance :=
  stages.foldl (fun noted stage => stage.noted?.getD noted) served

theorem newest_append (served : List Allowance) (front back : List Stage) :
    newest served (front ++ back) = newest (newest served front) back := List.foldl_append ..

theorem newest_of_over {served : List Allowance} {stages : List Stage}
    (h : ∀ stage ∈ stages, stage = .ended) : newest served stages = served := by
  induction stages with
  | nil => rfl
  | cons stage stages ih =>
    obtain ⟨rfl, hrest⟩ := List.forall_mem_cons.1 h
    exact ih hrest

/-- A call that has started: what is left of it, how far it is and how often the host has answered it. -/
structure Started where
  task : Task AllowanceState (Except Failure Unit)
  stage : Stage
  answers : Nat

/-- What is left of the call is what its stage says. -/
def Started.Stands (call : Started) : Prop :=
  match call.stage with
  | .ended => call.task = .done (.ok ())
  | .lists noted => call.answers = 0 ∧ ∃ rules,
    RuleFamily.redirectAllowOnce.assign (noted.map (·.rule)) = .ok rules ∧
      AllowanceState.Lists rules call.task
  | .updates noted removed => call.answers = 1 ∧ ∃ rules,
    RuleFamily.redirectAllowOnce.assign (noted.map (·.rule)) = .ok rules ∧
      AllowanceState.Updates removed rules call.task

theorem Started.Stands.over_of_two_le {call : Started} (h : call.Stands) (htwo : 2 ≤ call.answers) :
    call.stage = .ended := by
  rw [Stands] at h
  split at h
  · assumption
  · omega
  · omega

/-- The calls end in the order in which they started, each with the numbers that the host has in the
range. -/
structure Fits (allowed : Nat → List Allowance) (overlap : Overlap) (answers : List Nat)
    (calls : List Started) (host : RuleHost) (served : List Allowance) : Prop where
  tasks : overlap.started = calls.map (·.task)
  counts : answers = calls.map (·.answers)
  stands : ∀ call ∈ calls, call.Stands
  queue : calls.Pairwise fun a b => (∃ noted removed, b.stage = .updates noted removed) → a.stage = .ended
  removed : ∀ call ∈ calls, ∀ noted removed, call.stage = .updates noted removed →
    removed = host.allowanceIds
  current : overlap.state.host = some host
  serves : host.Serves
  allows : host.Allows served
  tip : newest served (calls.map (·.stage)) = overlap.state.allowances
  allowed : overlap.state.allowances = allowed answers.length

theorem answer_of_none {overlap : Overlap} {call : Nat} (h : overlap.started[call]? = none) :
    overlap.answer call = overlap := by
  rw [answer, h]
  rfl

theorem answer_of_done {overlap : Overlap} {call : Nat} {result : Except Failure Unit}
    (h : overlap.started[call]? = some (.done result)) : overlap.answer call = overlap := by
  rw [answer, h]
  rfl

theorem answer_of_turn {overlap : Overlap} {call : Nat}
    {task rest : Task AllowanceState (Except Failure Unit)} {s : AllowanceState}
    (h : overlap.started[call]? = some task) (hturn : task.turn? overlap.state = some (rest, s)) :
    overlap.answer call = ⟨s, overlap.started.set call rest⟩ := by
  rw [answer, h, Option.bind_some, hturn]

section Fits

variable {allowed : Nat → List Allowance} {overlap overlap' : Overlap} {answers : List Nat}
  {calls before after : List Started}
  {host host' : RuleHost} {served served' : List Allowance} {call call' : Started}

theorem exists_split {i : Nat} (h : calls[i]? = some call) :
    ∃ before after, calls = before ++ call :: after ∧ before.length = i := by
  obtain ⟨hi, rfl⟩ := List.getElem?_eq_some_iff.1 h
  refine ⟨calls.take i, calls.drop (i + 1), by simp, ?_⟩
  rw [List.length_take]
  omega

/-- Another call has started, and has not asked the host yet. -/
theorem Fits.push (h : Fits allowed overlap answers calls host served) (hstands : call.Stands)
    (hanswers : call.answers = 0) (hstage : ∀ noted removed, call.stage ≠ .updates noted removed)
    (htasks : overlap'.started = overlap.started ++ [call.task])
    (hcurrent : overlap'.state.host = overlap.state.host)
    (htip : call.stage.noted?.getD overlap.state.allowances = overlap'.state.allowances)
    (hallowed : overlap'.state.allowances = allowed (answers.length + 1)) :
    Fits allowed overlap' (answers ++ [0]) (calls ++ [call]) host served where
  tasks := by rw [htasks, h.tasks, List.map_append, List.map_singleton]
  counts := by rw [h.counts, List.map_append, List.map_singleton, hanswers]
  stands := List.forall_mem_append.2 ⟨h.stands, List.forall_mem_singleton.2 hstands⟩
  queue := by
    refine List.pairwise_append.2 ⟨h.queue, List.pairwise_singleton _ _, ?_⟩
    rintro a - b hb ⟨noted, removed, hupdates⟩
    rw [List.mem_singleton.1 hb] at hupdates
    exact (hstage noted removed hupdates).elim
  removed := by
    refine List.forall_mem_append.2 ⟨h.removed, List.forall_mem_singleton.2 ?_⟩
    exact fun noted removed hupdates => (hstage noted removed hupdates).elim
  current := hcurrent.trans h.current
  serves := h.serves
  allows := h.allows
  tip := by
    rw [List.map_append, newest_append, h.tip]
    exact htip
  allowed := by
    rw [List.length_append, List.length_singleton]
    exact hallowed

/-- The host has answered a call. -/
theorem Fits.replace (h : Fits allowed overlap answers (before ++ call :: after) host served)
    (hstands : call'.Stands) (hanswers : call'.answers = call.answers + 1)
    (hover : call.stage = .ended → call'.stage = .ended)
    (hqueue : ∀ noted removed, call'.stage = .updates noted removed →
      removed = host'.allowanceIds ∧ ∀ other ∈ before, other.stage = .ended)
    (hremoved : ∀ other ∈ before ++ after, ∀ noted removed, other.stage = .updates noted removed →
      removed = host'.allowanceIds)
    (htasks : overlap'.started = overlap.started.set before.length call'.task)
    (hcurrent : overlap'.state.host = some host') (hserves : host'.Serves) (hallows : host'.Allows served')
    (hsame : overlap'.state.allowances = overlap.state.allowances)
    (htip : newest served' ((before ++ call' :: after).map (·.stage)) =
      newest served ((before ++ call :: after).map (·.stage))) :
    Fits allowed overlap' (Turn.count answers (.answer before.length)) (before ++ call' :: after) host'
      served' where
  tasks := by
    rw [htasks, h.tasks]
    simp
  counts := by
    rw [Turn.count, h.counts]
    simp [hanswers]
  stands := by
    intro other hmem
    rcases List.mem_append.1 hmem with hmem | hmem
    · exact h.stands other (List.mem_append_left _ hmem)
    rcases List.mem_cons.1 hmem with rfl | hmem
    · exact hstands
    · exact h.stands other (List.mem_append_right _ (List.mem_cons_of_mem _ hmem))
  queue := by
    obtain ⟨hbefore, hcall, hcross⟩ := List.pairwise_append.1 h.queue
    obtain ⟨hfirst, hafter⟩ := List.pairwise_cons.1 hcall
    refine List.pairwise_append.2 ⟨hbefore, List.pairwise_cons.2 ⟨?_, hafter⟩, ?_⟩
    · exact fun b hb hupdates => hover (hfirst b hb hupdates)
    · intro a ha b hb hupdates
      rcases List.mem_cons.1 hb with rfl | hb
      · obtain ⟨noted, removed, hupdates⟩ := hupdates
        exact (hqueue noted removed hupdates).2 a ha
      · exact hcross a ha b (List.mem_cons_of_mem _ hb) hupdates
  removed := by
    intro other hmem noted removed hupdates
    rcases List.mem_append.1 hmem with hmem | hmem
    · exact hremoved other (List.mem_append_left _ hmem) noted removed hupdates
    rcases List.mem_cons.1 hmem with rfl | hmem
    · exact (hqueue noted removed hupdates).1
    · exact hremoved other (List.mem_append_right _ hmem) noted removed hupdates
  current := hcurrent
  serves := hserves
  allows := hallows
  tip := htip.trans (h.tip.trans hsame.symm)
  allowed := by
    rw [hsame, Turn.count, List.length_set]
    exact h.allowed

/-- The host answers a question or an update, or a call that is over, in its turn. -/
theorem Fits.answer (h : Fits allowed overlap answers calls host served) (i : Nat)
    (horderly : answers[i]? = some 0 → ∀ n ∈ answers.take i, 2 ≤ n) :
    ∃ calls' host' served',
      Fits allowed (overlap.answer i) (Turn.count answers (.answer i)) calls' host' served' := by
  cases hcall : calls[i]? with
  | none =>
    have hlength : answers.length ≤ i := by
      rw [h.counts, List.length_map]
      exact List.getElem?_eq_none_iff.1 hcall
    have hcount : Turn.count answers (.answer i) = answers := List.set_eq_of_length_le hlength
    have hnone : overlap.started[i]? = none := by
      rw [h.tasks, List.getElem?_map, hcall]
      rfl
    rw [hcount, answer_of_none hnone]
    exact ⟨calls, host, served, h⟩
  | some call =>
    obtain ⟨before, after, rfl, rfl⟩ := exists_split hcall
    have hmem : call ∈ before ++ call :: after := List.mem_append_right _ List.mem_cons_self
    have htask : overlap.started[before.length]? = some call.task := by
      rw [h.tasks, List.getElem?_map, hcall]
      rfl
    have hothers : ∀ other ∈ before ++ after, other ∈ before ++ call :: after := by
      intro other hmem
      rcases List.mem_append.1 hmem with hmem | hmem
      · exact List.mem_append_left _ hmem
      · exact List.mem_append_right _ (List.mem_cons_of_mem _ hmem)
    have hstands := h.stands call hmem
    rw [Started.Stands] at hstands
    cases hstage : call.stage with
    | ended =>
      rw [hstage] at hstands
      rw [answer_of_done (htask.trans (congrArg some hstands))]
      refine ⟨before ++ ⟨call.task, .ended, call.answers + 1⟩ :: after, host, served,
        h.replace hstands rfl (fun _ => rfl) nofun ?_ ?_ h.current h.serves h.allows rfl ?_⟩
      · exact fun other hmem => h.removed other (hothers other hmem)
      · obtain ⟨hi, hget⟩ := List.getElem?_eq_some_iff.1 htask
        rw [← hget, List.set_getElem_self]
      · simp [hstage]
    | lists noted =>
      rw [hstage] at hstands
      obtain ⟨hzero, rules, hassign, hlists⟩ := hstands
      obtain ⟨rest, hturn, hupdates⟩ := hlists overlap.state host h.current h.serves
      obtain ⟨-, hserves, hrules⟩ := h.serves.listRules true
      have hids : (listRules true host).2.allowanceIds = host.allowanceIds := by
        rw [allowanceIds, hrules]
        rfl
      have hbefore : ∀ other ∈ before, other.stage = .ended := by
        intro other hother
        refine (h.stands other (List.mem_append_left _ hother)).over_of_two_le (horderly ?_ _ ?_)
        · rw [h.counts, List.getElem?_map, hcall, Option.map_some, hzero]
        · rw [h.counts, List.map_append, List.take_left' (by rw [List.length_map])]
          exact List.mem_map_of_mem hother
      rw [answer_of_turn htask hturn]
      refine ⟨before ++ ⟨rest, .updates noted host.allowanceIds, 1⟩ :: after, _, served,
        h.replace ⟨rfl, rules, hassign, hupdates⟩ (by rw [hzero]) (by rw [hstage]; nofun) ?_ ?_ rfl rfl
          hserves ?_ rfl ?_⟩
      · rintro _ _ ⟨rfl, rfl⟩
        exact ⟨hids.symm, hbefore⟩
      · intro other hother noted' removed hupdates'
        rw [hids]
        exact h.removed other (hothers other hother) noted' removed hupdates'
      · exact (Allows.congr (by rw [rulesOf, hrules]; rfl)).2 h.allows
      · simp [newest, hstage, Stage.noted?]
    | updates noted removed =>
      obtain rfl := h.removed call hmem noted removed hstage
      rw [hstage] at hstands
      obtain ⟨hone, rules, hassign, hupdates⟩ := hstands
      have hroom := room_of_assign hassign (host.rules true)
      have hok : (updateRules true host.allowanceIds rules host).1 = .ok () := h.serves.updateRules hroom
      obtain ⟨-, hcallAfter, hcross⟩ := List.pairwise_append.1 h.queue
      have hbefore : ∀ other ∈ before, other.stage = .ended := fun other hother =>
        hcross other hother call List.mem_cons_self ⟨noted, _, hstage⟩
      have hturn := hupdates overlap.state host h.current
      rw [hok] at hturn
      rw [answer_of_turn htask hturn]
      refine ⟨before ++ ⟨.done (.ok ()), .ended, 2⟩ :: after, _, noted,
        h.replace rfl (by rw [hone]) (fun _ => rfl) (by rintro _ _ ⟨⟩) ?_ rfl rfl
          (h.serves.congr (sameManner_updateRules _ _ _ host)) (allows_updateRules hassign hok) rfl ?_⟩
      · intro other hother noted' removed hupdates'
        rcases List.mem_append.1 hother with hother | hother
        · rw [hbefore other hother] at hupdates'
          cases hupdates'
        · have hover := (List.pairwise_cons.1 hcallAfter).1 other hother ⟨noted', removed, hupdates'⟩
          rw [hstage] at hover
          cases hover
      · have hover : ∀ stage ∈ before.map (·.stage), stage = .ended := by
          rintro stage hstage
          obtain ⟨other, hother, rfl⟩ := List.mem_map.1 hstage
          exact hbefore other hother
        rw [List.map_append, List.map_append, newest_append, newest_append, newest_of_over hover,
          newest_of_over hover, List.map_cons, List.map_cons, hstage]
        rfl

/-- Another call starts. -/
theorem Fits.start (h : Fits allowed overlap answers calls host served) {next : AllowanceCall}
    (hnext : allowed (answers.length + 1) = next.change (allowed answers.length))
    (hroom : (allowed (answers.length + 1)).length ≤ RuleFamily.redirectAllowOnce.capacity) :
    ∃ calls', Fits allowed (overlap.start next) (answers ++ [0]) calls' host served := by
  have hturns := AllowanceState.turns_task next h.current
  rw [← h.allowed] at hnext
  by_cases hsame : next.change overlap.state.allowances = overlap.state.allowances
  · rw [if_pos hsame] at hturns
    have hstart : overlap.start next = ⟨overlap.state, overlap.started ++ [.done (.ok ())]⟩ := by
      rw [Overlap.start, hturns]
    rw [hstart]
    have hstands : Started.Stands ⟨.done (.ok ()), .ended, 0⟩ := rfl
    exact ⟨_, h.push hstands rfl nofun rfl rfl rfl (hsame.symm.trans hnext.symm)⟩
  · rw [if_neg hsame] at hturns
    have hfit : ((next.change overlap.state.allowances).map (·.rule)).length ≤
        RuleFamily.redirectAllowOnce.capacity := by
      rw [List.length_map, ← hnext]
      exact hroom
    obtain ⟨rules, hassign⟩ := RuleFamily.assign_of_le hfit
    have hstart : overlap.start next = ⟨{ overlap.state with
        allowances := next.change overlap.state.allowances }, overlap.started ++
          [(AllowanceState.install (next.change overlap.state.allowances)).run.within (·.host.getD host)
            fun host s => { s with host := some host }]⟩ := by
      rw [Overlap.start, hturns]
    have hstands : Started.Stands ⟨_, .lists (next.change overlap.state.allowances), 0⟩ :=
      ⟨rfl, rules, hassign, AllowanceState.lists_install host hassign⟩
    rw [hstart]
    exact ⟨_, h.push hstands rfl nofun rfl rfl rfl hnext.symm⟩

end Fits

theorem run_concat (calls : Nat → AllowanceCall) (s : AllowanceState) (before : List Turn) (turn : Turn) :
    run calls s (before ++ [turn]) = (run calls s before).next calls turn := by
  rw [run, List.foldl_append]
  rfl

end Overlap

theorem answersOf_concat (before : List Turn) (turn : Turn) :
    answersOf (before ++ [turn]) = turn.count (answersOf before) := by
  rw [answersOf, List.foldl_append]
  rfl

/-- The calls that have started stay. -/
theorem length_answersOf_le (before after : List Turn) :
    (answersOf before).length ≤ (answersOf (before ++ after)).length := by
  induction after using List.reverseRecOn with
  | nil => rw [List.append_nil]
  | append_singleton after turn ih =>
    rw [← List.append_assoc, answersOf_concat]
    cases turn with
    | start =>
      rw [Turn.count, List.length_append]
      omega
    | answer call =>
      rw [Turn.count, List.length_set]
      exact ih

namespace Overlap

/-- In an orderly run the calls end one after another. -/
theorem exists_fits {turns : List Turn} (horderly : IsOrderly turns) (calls : Nat → AllowanceCall)
    {s : AllowanceState} {host : RuleHost} (hhost : s.host = some host) (hserves : host.Serves)
    (hallows : host.Allows s.allowances)
    (hroom : ∀ n ≤ (answersOf turns).length,
      (AllowanceCall.changes calls s.allowances n).length ≤ RuleFamily.redirectAllowOnce.capacity)
    (before after : List Turn) (hturns : turns = before ++ after) : ∃ started host' served,
      Fits (AllowanceCall.changes calls s.allowances) (run calls s before) (answersOf before) started host'
        served := by
  induction before using List.reverseRecOn generalizing after with
  | nil =>
    exact ⟨[], host, s.allowances, rfl, rfl, nofun, .nil, nofun, hhost, hserves, hallows, rfl, rfl⟩
  | append_singleton before turn ih =>
    obtain ⟨started, host', served, hfits⟩ := ih (turn :: after) (by rw [hturns]; simp)
    rw [run_concat, answersOf_concat]
    cases turn with
    | start =>
      have hlength := length_answersOf_le (before ++ [.start]) after
      rw [answersOf_concat, ← hturns, Turn.count, List.length_append, List.length_singleton] at hlength
      have hcount : (run calls s before).started.length = (answersOf before).length := by
        rw [hfits.tasks, hfits.counts, List.length_map, List.length_map]
      obtain ⟨started', hfits'⟩ := hfits.start rfl (hroom _ hlength)
      rw [← hcount] at hfits'
      exact ⟨started', host', served, hfits'⟩
    | answer call =>
      refine hfits.answer call (horderly before call after ?_)
      rw [hturns, List.append_assoc]
      rfl

/-- When the host lists its rules for a call only after the updates of all that started before it, all
goes well. -/
theorem isSafe_of_isOrderly {turns : List Turn} (hcomplete : IsComplete turns)
    (horderly : IsOrderly turns) : IsSafe turns := by
  rintro calls s host - hhost hserves hallows hroom
  obtain ⟨started, host', served, hfits⟩ :=
    exists_fits horderly calls hhost hserves hallows hroom turns [] (List.append_nil turns).symm
  have hover : ∀ call ∈ started, call.stage = .ended := fun call hcall =>
    (hfits.stands call hcall).over_of_two_le (hcomplete _ (hfits.counts ▸ List.mem_map_of_mem hcall))
  refine ⟨fun task htask => ?_, host', hfits.current, ?_⟩
  · rw [hfits.tasks] at htask
    obtain ⟨call, hcall, rfl⟩ := List.mem_map.1 htask
    have hstands := hfits.stands call hcall
    rw [Started.Stands, hover call hcall] at hstands
    exact hstands
  · have htip := hfits.tip
    rw [newest_of_over (List.forall_mem_map.2 hover)] at htip
    exact htip ▸ hfits.allows

end Overlap

end ContentFilter
