import ContentFilter.Proofs.Config.Bus
import ContentFilter.Proofs.Interleaving
import Mathlib.Data.List.Chain

/-! The configuration with everybody who uses it at once: it is published, subscribers come, are handed
what is new and go, and calls of `idle` wait until all are done with it. The steps of all of them come
in any order. -/

namespace ContentFilter

/-- A subscription and what has come of it. -/
structure Subscriber where
  feed : Subscription
  live : Bool := true
  /-- What is left of the call of `next` that is under way. -/
  asking : Option (Task Bus (ConfigChange × Subscription)) := none
  /-- The version that its channel had when it was made or last read. -/
  seen : Nat
  /-- What was handed to it, in order. -/
  deliveries : List ConfigChange := []
  /-- Which versions it had been handed when it called `next` again. -/
  finished : List Nat := []

/-- The configuration and its subscribers at one moment. -/
structure BusView where
  bus : Bus
  subscribers : List Subscriber := []

/-- A call of `idle`: what is left of its round, and what there was at each step of the round. -/
structure Waiter where
  left : Task Bus Bool := Bus.idleRound
  views : List BusView := []

structure BusRun extends BusView where
  waiters : List Waiter := []
  /-- Every version that there has been, with its configuration. -/
  history : List (Nat × Config)

inductive BusEvent where
  | update (f : Config → Config)
  | set (config : Config)
  | subscribe
  /-- A subscriber calls `next`. -/
  | ask (subscriber : Nat)
  /-- The call of `next` that is under way takes a step. -/
  | turn (subscriber : Nat)
  | drop (subscriber : Nat)
  /-- Somebody calls `idle`. -/
  | idle
  /-- A call of `idle` takes a step. -/
  | wait (waiter : Nat)

namespace Subscriber

/-- Nothing else can be done with a subscription while a call of `next` is under way. -/
def isFree (s : Subscriber) : Bool := s.live && s.asking.isNone

def ask (s : Subscriber) : Subscriber :=
  if s.isFree then
    { s with asking := some s.feed.next, finished := s.finished ++ [s.feed.delivered] }
  else s

def turn (bus : Bus) (s : Subscriber) : Subscriber × Bus :=
  match s.asking.bind (·.turn? bus) with
  | some (.done (change, feed), bus') =>
    ({ s with feed, asking := none, seen := bus.version, deliveries := s.deliveries ++ [change] }, bus')
  | some (rest, bus') => ({ s with asking := some rest }, bus')
  | none => (s, bus)

def drop (bus : Bus) (s : Subscriber) : Subscriber × Bus :=
  if s.isFree then ({ s with live := false }, bus.unsubscribe s.feed) else (s, bus)

end Subscriber

/-- A step of a call of `idle`. It takes another round when a version was published meanwhile, else it
returns. -/
def Waiter.turn (view : BusView) (waiter : Waiter) : Waiter × Bus :=
  match waiter.left with
  | .done true => (waiter, view.bus)
  | .done false => ({}, view.bus)
  | left => match left.turn? view.bus with
    | some (rest, bus) => (⟨rest, waiter.views ++ [view]⟩, bus)
    | none => (waiter, view.bus)

namespace BusRun

def start (config : Config) : BusRun := { bus := { config }, history := [(1, config)] }

def publish (f : Bus → Bool × Bus) (run : BusRun) : BusRun :=
  let bus := (f run.bus).2
  { run with bus, history := (bus.version, bus.config) :: run.history }

/-- A subscriber does something, which the bus may notice. -/
def onSubscriber (k : Nat) (f : Subscriber → Subscriber × Bus) (run : BusRun) : BusRun :=
  match run.subscribers[k]? with
  | some s => { run with bus := (f s).2, subscribers := run.subscribers.set k (f s).1 }
  | none => run

def next (run : BusRun) : BusEvent → BusRun
  | .update f => run.publish (Bus.update f)
  | .set config => run.publish (Bus.set config)
  | .subscribe =>
    { run with
      bus := run.bus.subscribe.2
      subscribers := run.subscribers ++ [{ feed := run.bus.subscribe.1, seen := run.bus.version }] }
  | .ask k => run.onSubscriber k fun s => (s.ask, run.bus)
  | .turn k => run.onSubscriber k fun s => s.turn run.bus
  | .drop k => run.onSubscriber k fun s => s.drop run.bus
  | .idle => { run with waiters := run.waiters ++ [{}] }
  | .wait k => match run.waiters[k]? with
    | some waiter =>
      { run with
        bus := (waiter.turn run.toBusView).2
        waiters := run.waiters.set k (waiter.turn run.toBusView).1 }
    | none => run

def after (config : Config) (events : List BusEvent) : BusRun := events.foldl next (start config)

end BusRun

/-- What is left of a call of `next` when the subscriber has acknowledged the last change. -/
def Subscription.await (feed : Subscription) : Task Bus (ConfigChange × Subscription) := do
  Task.when feed.hasNews fun bus => ((), bus)
  Task.read feed.deliver

/-- The steps of a call of `next`. -/
inductive Subscription.Asks (feed : Subscription) (bus : Bus) :
    Task Bus (ConfigChange × Subscription) → Prop where
  | called : Asks feed bus feed.next
  | awaits : Asks feed bus feed.await
  | reads (news : feed.hasNews bus = true) : Asks feed bus (Task.read feed.deliver)

namespace Subscription

variable {feed : Subscription} {bus bus' : Bus}

theorem hasNews_of_le (hle : bus.version ≤ bus'.version) (h : feed.hasNews bus = true) :
    feed.hasNews bus' = true := by
  simp only [hasNews, Bool.or_eq_true, decide_eq_true_eq] at h ⊢
  exact h.imp_right fun hlt => Nat.lt_of_lt_of_le hlt hle

theorem turn?_await : feed.await.turn? bus =
    if feed.hasNews bus then some (Task.read feed.deliver, bus) else none := rfl

end Subscription

/-- What is known of a subscriber. -/
structure Subscriber.Fits (bus : Bus) (history : List (Nat × Config)) (k : Nat) (s : Subscriber) : Prop where
  id : s.feed.id = k + 1
  last : s.feed.last = s.deliveries.getLast?.map (·.current)
  delivered : s.feed.delivered = (s.deliveries.getLast?.map (·.version)).getD 0
  bound : ∀ change ∈ s.deliveries, change.version ≤ s.feed.delivered
  increasing : s.deliveries.Pairwise fun a b => a.version < b.version
  published : ∀ change ∈ s.deliveries, (change.version, change.current) ∈ history
  first : ∀ change ∈ s.deliveries.head?, change.previous = none
  chain : s.deliveries.IsChain fun a b => b.previous = some a.current
  seen : s.deliveries ≠ [] → s.seen = s.feed.delivered
  asks : ∀ task, s.asking = some task → s.feed.Asks bus task ∧ s.feed.delivered ∈ s.finished
  entry : s.live = true → ∃ v, (s.feed.id, v) ∈ bus.handled ∧
    (v = 0 ∨ ∃ change ∈ s.deliveries, change.version = v ∧ v ∈ s.finished)

namespace Subscriber

variable {bus bus' : Bus} {history history' : List (Nat × Config)} {k : Nat} {s : Subscriber}

/-- What others do leaves what is known of a subscriber. -/
theorem Fits.mono (h : s.Fits bus history k) (haside : Bus.Aside (k + 1) bus bus')
    (hhistory : ∀ entry ∈ history, entry ∈ history') : s.Fits bus' history' k where
  id := h.id
  last := h.last
  delivered := h.delivered
  bound := h.bound
  increasing := h.increasing
  published change hchange := hhistory _ (h.published change hchange)
  first := h.first
  chain := h.chain
  seen := h.seen
  asks task htask := by
    obtain ⟨hasks, hfinished⟩ := h.asks task htask
    refine ⟨?_, hfinished⟩
    cases hasks with
    | called => exact .called
    | awaits => exact .awaits
    | reads news => exact .reads (Subscription.hasNews_of_le haside.grows.version_le news)
  entry hlive := by
    obtain ⟨v, hentry, hv⟩ := h.entry hlive
    rw [h.id] at hentry ⊢
    exact ⟨v, (haside.handled v).2 hentry, hv⟩

theorem fits_new (history : List (Nat × Config)) (hnumber : bus.nextSubscriber = k + 1) :
    Fits bus.subscribe.2 history k { feed := bus.subscribe.1, seen := bus.version } where
  id := hnumber
  last := rfl
  delivered := rfl
  bound _ h := absurd h List.not_mem_nil
  increasing := .nil
  published _ h := absurd h List.not_mem_nil
  first := by simp
  chain := .nil
  seen h := absurd rfl h
  asks := by simp
  entry _ := ⟨0, List.mem_append_right _ (List.mem_singleton.2 rfl), .inl rfl⟩

theorem Fits.ask (h : s.Fits bus history k) : s.ask.Fits bus history k := by
  rw [Subscriber.ask]
  split
  · refine { h with asks := ?_, entry := fun hlive => ?_ }
    · rintro task ⟨⟩
      exact ⟨.called, List.mem_append_right _ (List.mem_singleton.2 rfl)⟩
    · obtain ⟨v, hentry, hv⟩ := h.entry hlive
      refine ⟨v, hentry, hv.imp_right ?_⟩
      rintro ⟨change, hchange, hversion, hfinished⟩
      exact ⟨change, hchange, hversion, List.mem_append_left _ hfinished⟩
  · exact h

theorem Fits.drop (h : s.Fits bus history k) :
    (s.drop bus).1.Fits (s.drop bus).2 history k := by
  rw [Subscriber.drop]
  split
  · next hfree =>
    obtain ⟨-, hnone⟩ := Bool.and_eq_true_iff.1 hfree
    refine { h with asks := fun task htask => ?_, entry := nofun }
    rw [Option.isNone_iff_eq_none.1 hnone] at htask
    cases htask
  · exact h

/-- The version that a subscriber acknowledges is the one that it was handed last. -/
theorem Fits.delivered_cases (h : s.Fits bus history k) :
    s.feed.delivered = 0 ∨ ∃ change ∈ s.deliveries, change.version = s.feed.delivered := by
  rw [h.delivered]
  cases hlast : s.deliveries.getLast? with
  | none => exact .inl rfl
  | some change => exact .inr ⟨change, List.mem_of_getLast? hlast, rfl⟩

theorem Fits.acknowledge (h : s.Fits bus history k) (hfinished : s.feed.delivered ∈ s.finished) :
    Fits (bus.acknowledge s.feed) history k { s with asking := some s.feed.await } := by
  refine { h with asks := ?_, entry := fun hlive => ?_ }
  · rintro task ⟨⟩
    exact ⟨.awaits, hfinished⟩
  · obtain ⟨v, hentry, hv⟩ := h.entry hlive
    refine ⟨max v s.feed.delivered, List.mem_map.2 ⟨_, hentry, if_pos rfl⟩, ?_⟩
    rcases Nat.le_total v s.feed.delivered with hle | hle
    · rw [Nat.max_eq_right hle]
      refine h.delivered_cases.imp_right ?_
      rintro ⟨change, hchange, hversion⟩
      exact ⟨change, hchange, hversion, hfinished⟩
    · rw [Nat.max_eq_left hle]
      exact hv

/-- What is new is newer than all that was handed over before. -/
theorem Fits.version_lt (h : s.Fits bus history k) (hnews : s.feed.hasNews bus = true)
    {change : ConfigChange} (hchange : change ∈ s.deliveries) : change.version < bus.version := by
  simp only [Subscription.hasNews, Bool.or_eq_true, decide_eq_true_eq] at hnews
  rcases hnews with hnone | hless
  · rw [h.last, Option.isNone_map, Option.isNone_iff_eq_none, List.getLast?_eq_none_iff] at hnone
    rw [hnone] at hchange
    cases hchange
  · exact Nat.lt_of_le_of_lt (h.bound change hchange) hless

theorem Fits.deliver (h : s.Fits bus history k) (hcurrent : (bus.version, bus.config) ∈ history)
    (hnews : s.feed.hasNews bus = true) : Fits bus history k { s with
      feed := (s.feed.deliver bus).2
      asking := none
      seen := bus.version
      deliveries := s.deliveries ++ [(s.feed.deliver bus).1] } where
  id := h.id
  last := by rw [List.getLast?_concat]; rfl
  delivered := by rw [List.getLast?_concat]; rfl
  bound := by
    refine List.forall_mem_append.2 ⟨fun change hchange => ?_, List.forall_mem_singleton.2 ?_⟩
    · exact Nat.le_of_lt (h.version_lt hnews hchange)
    · exact Nat.le_refl bus.version
  increasing := by
    refine List.pairwise_append.2 ⟨h.increasing, List.pairwise_singleton _ _, fun a ha b hb => ?_⟩
    rw [List.mem_singleton.1 hb]
    exact h.version_lt hnews ha
  published := List.forall_mem_append.2 ⟨h.published, List.forall_mem_singleton.2 hcurrent⟩
  first := by
    intro change hchange
    cases hdeliveries : s.deliveries with
    | nil =>
      rw [hdeliveries] at hchange
      cases hchange
      change s.feed.last = none
      rw [h.last, hdeliveries]
      rfl
    | cons a rest =>
      rw [hdeliveries] at hchange
      exact h.first change (by rw [hdeliveries]; exact hchange)
  chain := by
    refine List.isChain_append.2 ⟨h.chain, .singleton _, fun a ha b hb => ?_⟩
    cases hb
    change s.feed.last = some a.current
    rw [h.last, Option.mem_def.1 ha]
    rfl
  seen _ := rfl
  asks := nofun
  entry hlive := by
    obtain ⟨v, hentry, hv⟩ := h.entry hlive
    refine ⟨v, hentry, hv.imp_right ?_⟩
    rintro ⟨change, hchange, hversion⟩
    exact ⟨change, List.mem_append_left _ hchange, hversion⟩

/-- A step of a call of `next`. -/
theorem Fits.turn (h : s.Fits bus history k) (hcurrent : (bus.version, bus.config) ∈ history) :
    (s.turn bus).1.Fits (s.turn bus).2 history k := by
  cases hasking : s.asking with
  | none =>
    rw [Subscriber.turn, hasking]
    exact h
  | some task =>
    obtain ⟨hasks, hfinished⟩ := h.asks task hasking
    cases hasks with
    | called =>
      have hturn : s.turn bus = ({ s with asking := some s.feed.await }, bus.acknowledge s.feed) := by
        rw [Subscriber.turn, hasking]
        rfl
      rw [hturn]
      exact h.acknowledge hfinished
    | awaits =>
      cases hnews : s.feed.hasNews bus with
      | false =>
        have hturn : s.turn bus = (s, bus) := by
          rw [Subscriber.turn, hasking, Option.bind_some, Subscription.turn?_await, hnews]
          rfl
        rw [hturn]
        exact h
      | true =>
        have hturn : s.turn bus = ({ s with asking := some (Task.read s.feed.deliver) }, bus) := by
          rw [Subscriber.turn, hasking, Option.bind_some, Subscription.turn?_await, hnews]
          rfl
        rw [hturn]
        refine { h with asks := ?_ }
        rintro task ⟨⟩
        exact ⟨.reads hnews, hfinished⟩
    | reads hnews =>
      rw [Subscriber.turn, hasking]
      exact h.deliver hcurrent hnews

end Subscriber

/-- A step of one subscriber leaves the configuration, and what the others have handled. -/
structure Bus.Spares (subscriber : Nat) (bus bus' : Bus) : Prop where
  version : bus'.version = bus.version
  config : bus'.config = bus.config
  nextSubscriber : bus'.nextSubscriber = bus.nextSubscriber
  others : ∀ other ≠ subscriber, Bus.Aside other bus bus'

theorem Bus.Spares.refl (subscriber : Nat) (bus : Bus) : Bus.Spares subscriber bus bus :=
  ⟨rfl, rfl, rfl, fun _ _ => .refl bus⟩

namespace Subscriber

variable {bus : Bus} {history : List (Nat × Config)} {k : Nat} {s : Subscriber}

theorem Fits.spares_drop (h : s.Fits bus history k) : Bus.Spares (k + 1) bus (s.drop bus).2 := by
  rw [Subscriber.drop]
  split
  · exact ⟨rfl, rfl, rfl, fun other hne => Bus.aside_unsubscribe (by rw [h.id]; exact hne.symm) bus⟩
  · exact .refl _ bus

theorem Fits.spares_turn (h : s.Fits bus history k) : Bus.Spares (k + 1) bus (s.turn bus).2 := by
  cases hasking : s.asking with
  | none =>
    rw [Subscriber.turn, hasking]
    exact .refl _ bus
  | some task =>
    rw [Subscriber.turn, hasking, Option.bind_some]
    cases (h.asks task hasking).1 with
    | called =>
      exact ⟨rfl, rfl, rfl, fun other hne => Bus.aside_acknowledge (by rw [h.id]; exact hne.symm) bus⟩
    | awaits =>
      rw [Subscription.turn?_await]
      cases s.feed.hasNews bus <;> exact .refl _ bus
    | reads => exact .refl _ bus

/-- A call of `next` waits only when the newest version is what it handed over last. -/
theorem Fits.waits (h : s.Fits bus history k) (hcurrent : (bus.version, bus.config) ∈ history)
    (hbound : ∀ entry ∈ history, entry.1 ≤ bus.version)
    (hone : ∀ v config config', (v, config) ∈ history → (v, config') ∈ history → config = config')
    {task : Task Bus (ConfigChange × Subscription)} (hasking : s.asking = some task)
    (hwaits : task.turn? bus = none) : ∃ change, s.deliveries.getLast? = some change ∧
      change.version = bus.version ∧ change.current = bus.config ∧ s.seen = bus.version := by
  have hnews : s.feed.hasNews bus = false := by
    cases (h.asks task hasking).1 with
    | called => cases hwaits
    | awaits =>
      rw [Subscription.turn?_await] at hwaits
      cases hnews : s.feed.hasNews bus with
      | false => rfl
      | true =>
        rw [hnews] at hwaits
        cases hwaits
    | reads => cases hwaits
  simp only [Subscription.hasNews, Bool.or_eq_false_iff, decide_eq_false_iff_not] at hnews
  obtain ⟨hsome, hold⟩ := hnews
  cases hlast : s.deliveries.getLast? with
  | none =>
    rw [h.last, hlast] at hsome
    cases hsome
  | some change =>
    have hmem : change ∈ s.deliveries := List.mem_of_getLast? hlast
    have hdelivered : s.feed.delivered = change.version := by
      rw [h.delivered, hlast]
      rfl
    have hversion : change.version = bus.version := by
      have hle := hbound _ (h.published change hmem)
      dsimp only at hle
      omega
    refine ⟨change, rfl, hversion, ?_, ?_⟩
    · refine hone bus.version _ _ ?_ hcurrent
      exact hversion ▸ h.published change hmem
    · rw [h.seen (List.ne_nil_of_mem hmem), hdelivered, hversion]

end Subscriber

/-- Every subscription then live had been handed that version, or a newer one, and had called `next`
again. -/
def BusView.HasFinished (view : BusView) (target : Nat) : Prop :=
  ∀ s ∈ view.subscribers, s.live = true →
    ∃ change ∈ s.deliveries, target ≤ change.version ∧ change.version ∈ s.finished

/-- What is known where all subscribers have handled a version. -/
theorem BusView.hasFinished_of_hasHandled {view : BusView} {history : List (Nat × Config)} {target : Nat}
    (hfits : ∀ k s, view.subscribers[k]? = some s → Subscriber.Fits view.bus history k s) (hpos : 0 < target)
    (h : view.bus.hasHandled target = true) : view.HasFinished target := by
  intro s hs hlive
  obtain ⟨k, hk⟩ := List.mem_iff_getElem?.1 hs
  obtain ⟨v, hentry, hv⟩ := (hfits k s hk).entry hlive
  have hle : target ≤ v := of_decide_eq_true (List.all_eq_true.1 h _ hentry)
  rcases hv with rfl | ⟨change, hchange, rfl, hfinished⟩
  · omega
  · exact ⟨change, hchange, hle, hfinished⟩

namespace Waiter

/-- What is left of a round that waits for the subscribers. -/
def await (target : Nat) : Task Bus Bool := do
  Task.when (Bus.hasHandled target) fun bus => ((), bus)
  let latest ← Task.read (·.version)
  pure (latest == target)

/-- What is left of a round that has found all subscribers done. -/
def check (target : Nat) : Task Bus Bool := do
  let latest ← Task.read (·.version)
  pure (latest == target)

/-- The rounds of a call of `idle`, with what there was at the steps. -/
inductive Fits : Waiter → Prop where
  | begun : Fits {}
  | awaits (first : BusView) (positive : 0 < first.bus.version) : Fits ⟨await first.bus.version, [first]⟩
  | reads (first second : BusView) (finished : second.HasFinished first.bus.version) :
    Fits ⟨check first.bus.version, [first, second]⟩
  | ended (first second third : BusView) (finished : second.HasFinished first.bus.version) :
    Fits ⟨.done (third.bus.version == first.bus.version), [first, second, third]⟩

theorem Fits.turn {waiter : Waiter} (h : waiter.Fits) {view : BusView} (hpos : 0 < view.bus.version)
    (hview : ∀ target, 0 < target → view.bus.hasHandled target = true → view.HasFinished target) :
    (waiter.turn view).1.Fits ∧ (waiter.turn view).2 = view.bus := by
  cases h with
  | begun => exact ⟨.awaits view hpos, rfl⟩
  | awaits first positive =>
    have hturn : Waiter.turn view ⟨await first.bus.version, [first]⟩ =
        if view.bus.hasHandled first.bus.version then
          (⟨check first.bus.version, [first, view]⟩, view.bus)
        else (⟨await first.bus.version, [first]⟩, view.bus) := by
      change (match (await first.bus.version).turn? view.bus with
        | some (rest, bus) => ((⟨rest, [first] ++ [view]⟩ : Waiter), bus)
        | none => (⟨await first.bus.version, [first]⟩, view.bus)) = _
      change (match if view.bus.hasHandled first.bus.version then
          some (check first.bus.version, view.bus) else none with
        | some (rest, bus) => ((⟨rest, [first] ++ [view]⟩ : Waiter), bus)
        | none => (⟨await first.bus.version, [first]⟩, view.bus)) = _
      cases view.bus.hasHandled first.bus.version <;> rfl
    rw [hturn]
    split
    · next hhandled => exact ⟨.reads first view (hview _ positive hhandled), rfl⟩
    · exact ⟨.awaits first positive, rfl⟩
  | reads first second finished => exact ⟨.ended first second view finished, rfl⟩
  | ended first second third finished =>
    cases hagain : third.bus.version == first.bus.version with
    | true =>
      have hover := Fits.ended first second third finished
      rw [hagain] at hover
      exact ⟨hover, rfl⟩
    | false => exact ⟨.begun, rfl⟩

/-- A call of `idle` returns after a look at which all were done with the version that it read last. -/
theorem Fits.returned {waiter : Waiter} (h : waiter.Fits) (hleft : waiter.left = .done true) :
    ∃ first second third, waiter.views = [first, second, third] ∧
      second.HasFinished third.bus.version := by
  cases h with
  | begun => cases hleft
  | awaits first positive => cases hleft
  | reads first second finished => cases hleft
  | ended first second third finished =>
    have hsame : third.bus.version = first.bus.version := eq_of_beq (Task.done.inj hleft)
    exact ⟨first, second, third, rfl, hsame ▸ finished⟩

end Waiter

namespace BusRun

/-- What is known of a run. -/
structure Sound (run : BusRun) : Prop where
  positive : 0 < run.bus.version
  current : (run.bus.version, run.bus.config) ∈ run.history
  bound : ∀ entry ∈ run.history, entry.1 ≤ run.bus.version
  one : ∀ v config config', (v, config) ∈ run.history → (v, config') ∈ run.history → config = config'
  numbered : run.bus.nextSubscriber = run.subscribers.length + 1
  subscribers : ∀ k s, run.subscribers[k]? = some s → Subscriber.Fits run.bus run.history k s
  waiters : ∀ waiter ∈ run.waiters, waiter.Fits

variable {run : BusRun}

theorem sound_start (config : Config) : (start config).Sound where
  positive := Nat.one_pos
  current := List.mem_singleton.2 rfl
  bound := List.forall_mem_singleton.2 (Nat.le_refl _)
  one v c c' h h' := by
    obtain ⟨-, rfl⟩ := Prod.mk.inj (List.mem_singleton.1 h)
    exact (Prod.mk.inj (List.mem_singleton.1 h')).2.symm
  numbered := rfl
  subscribers k s h := by
    rw [start, List.getElem?_nil] at h
    cases h
  waiters _ h := absurd h List.not_mem_nil

/-- A version that is published is new, or the one that there was. -/
theorem Sound.publish (h : run.Sound) (f : Config → Config) : (run.publish (Bus.update f)).Sound := by
  have haside : ∀ k, Bus.Aside k run.bus (Bus.update f run.bus).2 := fun k => Bus.aside_update f run.bus
  have hversion := Bus.update_version f run.bus
  have hle := (haside 0).grows.version_le
  refine ⟨Nat.lt_of_lt_of_le h.positive hle, List.mem_cons_self, ?_, ?_, ?_, ?_, h.waiters⟩
  · exact List.forall_mem_cons.2 ⟨Nat.le_refl _, fun entry hentry => Nat.le_trans (h.bound entry hentry) hle⟩
  · have hnew : ∀ config, ((Bus.update f run.bus).2.version, config) ∈ run.history →
        config = (Bus.update f run.bus).2.config := by
      intro config hmem
      rw [hversion] at hmem
      rw [Bus.update_config]
      split at hmem
      · next hsame => exact (h.one _ _ _ hmem h.current).trans hsame.symm
      · exact absurd (h.bound _ hmem) (Nat.not_le.2 (Nat.lt_succ_self _))
    intro v config config' hmem hmem'
    rcases List.mem_cons.1 hmem with heq | hmem <;> rcases List.mem_cons.1 hmem' with heq' | hmem'
    · exact (Prod.mk.inj heq).2.trans (Prod.mk.inj heq').2.symm
    · obtain ⟨rfl, rfl⟩ := Prod.mk.inj heq
      exact (hnew config' hmem').symm
    · obtain ⟨rfl, rfl⟩ := Prod.mk.inj heq'
      exact hnew config hmem
    · exact h.one v config config' hmem hmem'
  · exact (Bus.update_nextSubscriber f run.bus).trans h.numbered
  · exact fun k s hs => (h.subscribers k s hs).mono (haside _) fun _ => List.mem_cons_of_mem _

theorem Sound.onSubscriber (h : run.Sound) (k : Nat) {f : Subscriber → Subscriber × Bus}
    (hf : ∀ s, run.subscribers[k]? = some s →
      (f s).1.Fits (f s).2 run.history k ∧ Bus.Spares (k + 1) run.bus (f s).2) :
    (run.onSubscriber k f).Sound := by
  rw [BusRun.onSubscriber]
  split
  · next s hs =>
    obtain ⟨hfits, hspares⟩ := hf s hs
    refine ⟨?_, ?_, ?_, h.one, ?_, ?_, h.waiters⟩
    · exact hspares.version ▸ h.positive
    · rw [hspares.version, hspares.config]
      exact h.current
    · rw [hspares.version]
      exact h.bound
    · rw [hspares.nextSubscriber, List.length_set]
      exact h.numbered
    · intro k' s' hs'
      rw [List.getElem?_set] at hs'
      split at hs'
      · next heq =>
        split at hs'
        · cases hs'
          exact heq ▸ hfits
        · cases hs'
      · next hne =>
        exact (h.subscribers k' s' hs').mono (hspares.others _ (by omega)) fun _ => id
  · exact h

theorem Sound.turn_waiter (h : run.Sound) {waiter : Waiter} (hwaiter : waiter ∈ run.waiters) :
    (waiter.turn run.toBusView).1.Fits ∧ (waiter.turn run.toBusView).2 = run.bus :=
  (h.waiters waiter hwaiter).turn h.positive fun _ hpos hhandled =>
    BusView.hasFinished_of_hasHandled h.subscribers hpos hhandled

theorem Sound.next (h : run.Sound) (event : BusEvent) : (run.next event).Sound := by
  cases event with
  | update f => exact h.publish f
  | set config => exact h.publish fun _ => config
  | subscribe =>
    rw [BusRun.next]
    refine ⟨h.positive, h.current, h.bound, h.one, ?_, ?_, h.waiters⟩
    · rw [List.length_append, List.length_singleton, ← h.numbered]
      rfl
    · intro k s hs
      rw [List.getElem?_append] at hs
      split at hs
      · refine (h.subscribers k s hs).mono (Bus.aside_subscribe ?_) fun _ => id
        rw [h.numbered]
        omega
      · rw [List.getElem?_singleton] at hs
        split at hs
        · cases hs
          exact Subscriber.fits_new run.history (by rw [h.numbered]; omega)
        · cases hs
  | ask k =>
    exact h.onSubscriber k fun s hs => ⟨(h.subscribers k s hs).ask, .refl _ _⟩
  | turn k =>
    exact h.onSubscriber k fun s hs =>
      ⟨(h.subscribers k s hs).turn h.current, (h.subscribers k s hs).spares_turn⟩
  | drop k =>
    exact h.onSubscriber k fun s hs => ⟨(h.subscribers k s hs).drop, (h.subscribers k s hs).spares_drop⟩
  | idle =>
    refine { h with waiters := List.forall_mem_append.2 ⟨h.waiters, List.forall_mem_singleton.2 .begun⟩ }
  | wait k =>
    rw [BusRun.next]
    split
    · next waiter hwaiter =>
      obtain ⟨hturn, hbus⟩ := h.turn_waiter (List.mem_of_getElem? hwaiter)
      rw [hbus]
      refine { h with waiters := fun other hother => ?_ }
      rcases List.mem_or_eq_of_mem_set hother with hother | rfl
      · exact h.waiters other hother
      · exact hturn
    · exact h

theorem sound_after (config : Config) (events : List BusEvent) : (after config events).Sound := by
  have hfoldl : ∀ run : BusRun, run.Sound → (events.foldl next run).Sound := by
    induction events with
    | nil => exact fun run h => h
    | cons event events ih => exact fun run h => ih _ (h.next event)
  exact hfoldl _ (sound_start config)

end BusRun

/-- The configuration that an event leaves. -/
def BusEvent.publishes (config : Config) : BusEvent → Config
  | .update f => f config
  | .set next => next
  | _ => config

/-- A subscriber was handed ever newer versions, each as it was published and with the one handed over
before, and waits only when it was handed the newest. -/
structure Subscriber.IsServed (run : BusRun) (s : Subscriber) : Prop where
  increasing : s.deliveries.Pairwise fun a b => a.version < b.version
  published : ∀ change ∈ s.deliveries, (change.version, change.current) ∈ run.history
  first : ∀ change ∈ s.deliveries.head?, change.previous = none
  chain : s.deliveries.IsChain fun a b => b.previous = some a.current
  waits : ∀ task, s.asking = some task → task.turn? run.bus = none →
    ∃ change, s.deliveries.getLast? = some change ∧ change.version = run.bus.version ∧
      change.current = run.bus.config ∧ s.seen = run.bus.version

namespace BusRun

theorem onSubscriber_bus {run : BusRun} {k : Nat} {f : Subscriber → Subscriber × Bus}
    (hf : ∀ s, run.subscribers[k]? = some s → Bus.Spares (k + 1) run.bus (f s).2) :
    (run.onSubscriber k f).bus.config = run.bus.config ∧
      (run.onSubscriber k f).bus.version = run.bus.version := by
  rw [onSubscriber]
  split
  · next s hs => exact ⟨(hf s hs).config, (hf s hs).version⟩
  · exact ⟨rfl, rfl⟩

theorem Sound.next_bus {run : BusRun} (h : run.Sound) (event : BusEvent) :
    (run.next event).bus.config = event.publishes run.bus.config ∧
      (run.next event).bus.version =
        if event.publishes run.bus.config = run.bus.config then run.bus.version
        else run.bus.version + 1 := by
  cases event with
  | update f => exact ⟨Bus.update_config f run.bus, Bus.update_version f run.bus⟩
  | set config => exact ⟨Bus.update_config _ run.bus, Bus.update_version _ run.bus⟩
  | ask k => exact (onSubscriber_bus fun s _ => .refl _ _).imp_right fun h => h.trans (if_pos rfl).symm
  | turn k =>
    refine (onSubscriber_bus fun s hs => ?_).imp_right fun h => h.trans (if_pos rfl).symm
    exact (h.subscribers k s hs).spares_turn
  | drop k =>
    refine (onSubscriber_bus fun s hs => ?_).imp_right fun h => h.trans (if_pos rfl).symm
    exact (h.subscribers k s hs).spares_drop
  | subscribe => exact ⟨rfl, (if_pos rfl).symm⟩
  | idle => exact ⟨rfl, (if_pos rfl).symm⟩
  | wait k =>
    have hbus : (run.next (.wait k)).bus = run.bus := by
      rw [BusRun.next]
      split
      · next waiter hwaiter => exact (h.turn_waiter (List.mem_of_getElem? hwaiter)).2
      · rfl
    exact ⟨congrArg Bus.config hbus, (congrArg Bus.version hbus).trans (if_pos rfl).symm⟩

/-- Whatever happens in whatever order, the version counts the changes of the configuration, every
subscriber is served, and a call of `idle` returns only after a look at the subscribers (the second step
of its last round) at which all of them were done with the version that it read last (in the third). -/
theorem isServed_after (config : Config) (events : List BusEvent) (event : BusEvent) :
    let run := after config events
    ((run.next event).bus.config = event.publishes run.bus.config ∧
      (run.next event).bus.version =
        if event.publishes run.bus.config = run.bus.config then run.bus.version
        else run.bus.version + 1) ∧
      (∀ v config config', (v, config) ∈ run.history → (v, config') ∈ run.history → config = config') ∧
      (∀ s ∈ run.subscribers, s.IsServed run) ∧
      ∀ waiter ∈ run.waiters, waiter.left = .done true → ∃ first second third,
        waiter.views = [first, second, third] ∧ second.HasFinished third.bus.version := by
  intro run
  have hsound : run.Sound := sound_after config events
  refine ⟨hsound.next_bus event, hsound.one, fun s hs => ?_, fun waiter hwaiter => ?_⟩
  · obtain ⟨k, hk⟩ := List.mem_iff_getElem?.1 hs
    have hfits := hsound.subscribers k s hk
    exact ⟨hfits.increasing, hfits.published, hfits.first, hfits.chain,
      fun task => hfits.waits hsound.current hsound.bound hsound.one⟩
  · exact (hsound.waiters waiter hwaiter).returned

end BusRun

end ContentFilter
