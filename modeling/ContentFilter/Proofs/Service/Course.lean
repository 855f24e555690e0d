import ContentFilter.Proofs.Service.Start

/-! The course of a started service: the configurations that there were, what the engines got of them, and
what they know in their turn. -/

namespace ContentFilter

/-- A service with what was seen of it: the configuration of each version, and the versions that were
delivered to the engines, the last one first. -/
structure Course where
  service : Service
  configs : Nat → Config
  deliveries : List Nat := []

namespace Course

def start (s : Service) : Course where
  service := s
  configs := fun _ => s.config

/-- The service came to another state. -/
def reach (course : Course) (s : Service) : Course :=
  { course with
    service := s
    configs := MainEngine.record course.configs s.main.bus
    deliveries :=
      if s.engineFeed.delivered = course.service.engineFeed.delivered then course.deliveries
      else s.engineFeed.delivered :: course.deliveries }

/-- The engines have handled the newest configuration, and no reload is running. -/
structure Quiet (course : Course) : Prop where
  running : course.service.main.running = false
  handled : (course.service.engineFeed.id, course.service.main.bus.version) ∈ course.service.main.bus.handled

/-- The version of the first delivery to the engines. -/
def first (course : Course) : Nat := course.deliveries.getLastD 0

/-- The last of some deliveries that concerned the engines, the first one at least. -/
def lastConcern (configs : Nat → Config) : List Nat → Nat
  | version :: previous :: rest =>
    if Service.concernsEngines ⟨configs version, some (configs previous), version⟩ then version
    else lastConcern configs (previous :: rest)
  | [version] => version
  | [] => 0

def concern (course : Course) : Nat := lastConcern course.configs course.deliveries

/-- The version that the engine in use is for. -/
def version (course : Course) : Nat := course.service.main.published.version

/-- The inputs of the engines in some version of the configuration. -/
def inputs (course : Course) (version : Nat) : EngineInputs := (course.configs version).engineInputs

/-- The engine in use was put together for a configuration that is to the engines what the newest one
is. -/
def IsCurrent (course : Course) : Prop :=
  course.service.main.published.Reflects (course.configs course.version) ∧
    course.inputs course.version = course.service.config.engineInputs

/-- A current engine reflects the newest configuration. -/
theorem IsCurrent.reflects {course : Course} (h : course.IsCurrent) :
    course.service.main.published.Reflects course.service.config := h.1.congr h.2.symm

/-- The engine in use is still the first one, which was not put together for the configuration that the
service was started with. -/
def Misrestored (initial : Published) (course : Course) : Prop :=
  course.service.main.published = initial ∧ ¬ initial.Reflects (course.configs course.version)

/-- No delivery after the first concerned the engines, and the first one, which they do nothing for, had
other inputs than the engine in use, which is for an earlier version. -/
def Swallowed (course : Course) : Prop :=
  course.concern = course.first ∧ course.version < course.first ∧
    course.inputs course.version ≠ course.inputs course.first

/-- The engine in use is for a version that came after the last delivery that concerned the engines and
had other inputs. The next delivery had the same inputs as that one again, so nothing was done for it. -/
def Overtaken (course : Course) : Prop :=
  course.concern < course.version ∧ course.inputs course.version ≠ course.inputs course.concern

theorem lastConcern_le {configs : Nat → Config} {deliveries : List Nat} {bound : Nat}
    (h : ∀ version ∈ deliveries, version ≤ bound) : lastConcern configs deliveries ≤ bound := by
  induction deliveries with
  | nil => exact Nat.zero_le bound
  | cons version rest ih =>
    have hversion := h version List.mem_cons_self
    cases rest with
    | nil => exact hversion
    | cons previous rest =>
      rw [lastConcern]
      split
      · exact hversion
      · exact ih fun other hmem => h other (List.mem_cons_of_mem version hmem)

theorem lastConcern_congr {configs configs' : Nat → Config} {deliveries : List Nat}
    (h : ∀ version ∈ deliveries, configs' version = configs version) :
    lastConcern configs' deliveries = lastConcern configs deliveries := by
  induction deliveries with
  | nil => rfl
  | cons version rest ih =>
    cases rest with
    | nil => rfl
    | cons previous rest =>
      rw [lastConcern, lastConcern, ih fun other hmem => h other (List.mem_cons_of_mem version hmem),
        h version List.mem_cons_self, h previous (List.mem_cons_of_mem version List.mem_cons_self)]

/-- A change that does not concern the engines leaves them their inputs. -/
theorem engineInputs_eq_of_not_concerns {current previous : Config} {version : Nat}
    (h : Service.concernsEngines ⟨current, some previous, version⟩ = false) :
    current.engineInputs = previous.engineInputs := by
  simp only [Service.concernsEngines, Service.customFiltersChanged, ConfigChange.changed,
    Bool.or_eq_false_iff, bne_eq_false_iff_eq] at h
  obtain ⟨⟨hnames, hcustom, hmanaged⟩, hpicked⟩ := h
  have heffective : current.effectiveCustomFilters = previous.effectiveCustomFilters := by
    rw [Config.effectiveCustomFilters, Config.effectiveCustomFilters, hcustom, hmanaged]
  rw [Config.engineInputs, Config.engineInputs, hnames, heffective, hcustom, hpicked]

/-- Since the last delivery that concerned the engines their inputs are the same. -/
theorem engineInputs_lastConcern (configs : Nat → Config) (version : Nat) (rest : List Nat) :
    (configs (lastConcern configs (version :: rest))).engineInputs = (configs version).engineInputs := by
  induction rest generalizing version with
  | nil => rfl
  | cons previous rest ih =>
    rw [lastConcern]
    split
    · rfl
    · next hconcerns =>
      rw [ih previous, engineInputs_eq_of_not_concerns (Bool.eq_false_iff.2 hconcerns)]

/-- The deliveries so far are what the feed of the engines shows. -/
structure Delivered (subscriber : Nat) (course : Course) : Prop where
  feeds : Feeds subscriber course.service
  positive : 0 < course.service.main.bus.version
  bounded : ∀ version ∈ course.deliveries, version ≤ course.service.main.bus.version
  delivered : course.service.engineFeed.delivered = course.deliveries.headD 0
  last : course.service.engineFeed.last = course.deliveries.head?.map course.configs
  handled : ∀ version, (subscriber, version) ∈ course.service.main.bus.handled →
    version ≤ course.service.engineFeed.delivered

/-- The engines need no newer version for what was delivered; the first delivery they never do anything
for. -/
def Settled (needed : Nat) (course : Course) : Prop := course.concern = course.first ∨ course.concern ≤ needed

/-- What the engines know during their turn. -/
def OnTurn (subscriber needed : Nat) (course : Course) : Service.Turn → Prop
  | .waiting => Settled needed course
  | .taken feed => Settled needed course ∧ course.service.engineFeed = feed
  | .acknowledged feed => Settled needed course ∧ course.service.engineFeed = feed
  | .due feed => Settled needed course ∧ course.service.engineFeed = feed ∧
    feed.delivered < course.service.main.bus.version
  | .handed change feed => Settled needed course ∧ ∃ version,
    course.service.engineFeed.delivered < version ∧ version ≤ course.service.main.bus.version ∧
      change = ⟨course.configs version, course.service.engineFeed.last, version⟩ ∧
      feed = { course.service.engineFeed with last := some (course.configs version), delivered := version }
  | .handling => ∀ version, (subscriber, version) ∈ course.service.main.bus.handled →
    version < course.service.engineFeed.delivered

/-- All that holds of a system at some stages of its tasks. -/
structure Consistent (initial : Published) (subscriber needed : Nat) (turn : Service.Turn)
    (holds : List Hold) (course : Course) : Prop where
  serial : MainEngine.Serial course.configs needed course.service.main holds
  made : MainEngine.Made initial course.configs course.service.main.published
  delivered : Delivered subscriber course
  turn : OnTurn subscriber needed course turn

theorem Consistent.perm {initial : Published} {subscriber needed : Nat} {turn : Service.Turn}
    {holds holds' : List Hold} {course : Course}
    (h : Consistent initial subscriber needed turn holds course) (hperm : holds.Perm holds') :
    Consistent initial subscriber needed turn holds' course :=
  ⟨h.serial.perm hperm, h.made, h.delivered, h.turn⟩

/-- A service that was started has delivered nothing to the engines yet. -/
theorem consistent_start {subscriber : Nat} {s : Service} (h : Beginning subscriber (.held .free) s) :
    Consistent s.main.published subscriber 0 .waiting [.free] (start s) := by
  obtain ⟨configs, hserial⟩ := h.serial
  refine ⟨?_, .inl rfl, ?_, .inl rfl⟩
  · exact ⟨hserial.alone, hserial.running, hserial.dirty, hserial.generation, hserial.version, hserial.bound,
      rfl, List.forall_mem_singleton.2 trivial, hserial.covered⟩
  · exact ⟨h.feeds, h.positive, nofun, h.delivered, h.last, fun version hmem =>
      Nat.le_of_eq ((h.handled version hmem).trans h.delivered.symm)⟩

section Aside

variable {subscriber needed : Nat} {course : Course} {s : Service}

theorem reach_deliveries (hfeed : s.engineFeed = course.service.engineFeed) :
    (course.reach s).deliveries = course.deliveries := if_pos (by rw [hfeed])

/-- What became of the service was nothing to the feed of the engines. -/
structure Aside (subscriber : Nat) (s s' : Service) : Prop where
  feeds : Feeds subscriber s'
  engineFeed : s'.engineFeed = s.engineFeed
  bus : Bus.Aside subscriber s.main.bus s'.main.bus

variable (hcurrent : course.configs course.service.main.bus.version = course.service.main.bus.config)
  (haside : Aside subscriber course.service s)
include hcurrent haside

theorem configs_reach {version : Nat} (hle : version ≤ course.service.main.bus.version) :
    (course.reach s).configs version = course.configs version :=
  MainEngine.record_of_le hcurrent haside.bus.grows hle

theorem Delivered.aside (h : Delivered subscriber course) : Delivered subscriber (course.reach s) := by
  have hdeliveries := reach_deliveries haside.engineFeed
  refine ⟨haside.feeds, Nat.lt_of_lt_of_le h.positive haside.bus.grows.version_le, ?_, ?_, ?_, ?_⟩
  · rw [hdeliveries]
    exact fun version hmem => Nat.le_trans (h.bounded version hmem) haside.bus.grows.version_le
  · rw [hdeliveries]
    exact (congrArg _ haside.engineFeed).trans h.delivered
  · rw [hdeliveries]
    refine (congrArg _ haside.engineFeed).trans (h.last.trans ?_)
    cases hlist : course.deliveries with
    | nil => rfl
    | cons version rest =>
      have hle := h.bounded version (hlist ▸ List.mem_cons_self)
      exact congrArg some (configs_reach hcurrent haside hle).symm
  · intro version hmem
    have hold := h.handled version ((haside.bus.handled version).1 hmem)
    exact Nat.le_trans hold (Nat.le_of_eq (congrArg _ haside.engineFeed.symm))

theorem concern_reach (h : Delivered subscriber course) : (course.reach s).concern = course.concern := by
  rw [concern, reach_deliveries haside.engineFeed]
  exact lastConcern_congr fun version hmem => configs_reach hcurrent haside (h.bounded version hmem)

theorem Settled.aside (h : Delivered subscriber course) (hsettled : Settled needed course) :
    Settled needed (course.reach s) := by
  rw [Settled, concern_reach hcurrent haside h, first, reach_deliveries haside.engineFeed]
  exact hsettled

theorem OnTurn.aside {turn : Service.Turn} (h : Delivered subscriber course)
    (hturn : OnTurn subscriber needed course turn) : OnTurn subscriber needed (course.reach s) turn := by
  have hgrows := haside.bus.grows.version_le
  cases turn with
  | waiting => exact Settled.aside hcurrent haside h hturn
  | taken feed | acknowledged feed =>
    exact ⟨Settled.aside hcurrent haside h hturn.1, haside.engineFeed.trans hturn.2⟩
  | due feed =>
    exact ⟨Settled.aside hcurrent haside h hturn.1, haside.engineFeed.trans hturn.2.1,
      Nat.lt_of_lt_of_le hturn.2.2 hgrows⟩
  | handed change feed =>
    obtain ⟨hsettled, version, hlt, hle, hchange, hfeed⟩ := hturn
    have hconfig := configs_reach hcurrent haside hle
    have hsame : (course.reach s).service.engineFeed = course.service.engineFeed := haside.engineFeed
    refine ⟨Settled.aside hcurrent haside h hsettled, version, ?_, Nat.le_trans hle hgrows, ?_, ?_⟩
    · rw [hsame]
      exact hlt
    · rw [hsame, hconfig]
      exact hchange
    · rw [hsame, hconfig]
      exact hfeed
  | handling =>
    intro version hmem
    have hold := hturn version ((haside.bus.handled version).1 hmem)
    exact Nat.lt_of_lt_of_eq hold (congrArg _ haside.engineFeed.symm)

end Aside

theorem Delivered.lt_of_hasNews {subscriber : Nat} {course : Course} (h : Delivered subscriber course)
    (hnews : course.service.engineFeed.hasNews course.service.main.bus = true) :
    course.service.engineFeed.delivered < course.service.main.bus.version := by
  rcases Bool.or_eq_true_iff.1 hnews with hnone | hlt
  · have hlast := h.last
    have hdelivered := h.delivered
    cases hlist : course.deliveries with
    | nil =>
      rw [hdelivered, hlist]
      exact h.positive
    | cons version rest =>
      rw [hlast, hlist] at hnone
      cases hnone
  · exact of_decide_eq_true hlt

section Moves

variable {initial : Published} {subscriber needed : Nat} {turn turn' : Service.Turn} {hold hold' : Hold}
  {holds : List Hold} {course : Course} {s : Service}

/-- Whatever a task does that has not to do with the feed of the engines, all goes on as before. -/
theorem Consistent.move (h : Consistent initial subscriber needed turn (hold :: holds) course)
    (hmove : (Service.lock subscriber).move hold course.service hold' s) :
    Consistent initial subscriber needed turn (hold' :: holds) (course.reach s) := by
  have haside : Aside subscriber course.service s := ⟨hmove.feeds, hmove.engineFeed, hmove.main.bus⟩
  exact ⟨h.serial.move hmove.main, h.serial.made hmove.main h.made,
    h.delivered.aside h.serial.current haside, h.turn.aside h.serial.current haside h.delivered⟩

/-- What comes from outside leaves the reload alone. -/
theorem Consistent.aside (h : Consistent initial subscriber needed turn holds course)
    (haside : Aside subscriber course.service s)
    (hpublished : s.main.published = course.service.main.published)
    (hgeneration : s.main.generation = course.service.main.generation)
    (hrunning : s.main.running = course.service.main.running)
    (hdirty : s.main.dirty = course.service.main.dirty) :
    Consistent initial subscriber needed turn holds (course.reach s) :=
  ⟨h.serial.aside hpublished hgeneration hrunning hdirty haside.bus.grows,
    h.made.aside h.serial hpublished haside.bus.grows, h.delivered.aside h.serial.current haside,
    h.turn.aside h.serial.current haside h.delivered⟩

theorem reach_self (hcurrent : course.configs course.service.main.bus.version = course.service.main.bus.config) :
    course.reach course.service = course := by
  rw [reach, MainEngine.record_of_current hcurrent, if_pos rfl]

/-- A step on the way to the next change for the engines. -/
theorem Consistent.onTurn (h : Consistent initial subscriber needed turn holds course)
    (hturn : OnTurn subscriber needed course turn') :
    Consistent initial subscriber needed turn' holds (course.reach course.service) := by
  rw [reach_self h.serial.current]
  exact ⟨h.serial, h.made, h.delivered, hturn⟩

theorem mem_acknowledge {feed : Subscription} {bus : Bus} {version : Nat}
    (h : (subscriber, version) ∈ (bus.acknowledge feed).handled) :
    (subscriber, version) ∈ bus.handled ∨
      ∃ old, (subscriber, old) ∈ bus.handled ∧ version = max old feed.delivered := by
  obtain ⟨⟨id, old⟩, hentry, heq⟩ := List.mem_map.1 h
  dsimp only at heq
  split at heq
  · cases heq
    exact .inr ⟨old, hentry, rfl⟩
  · cases heq
    exact .inl hentry

theorem Consistent.acknowledge {feed : Subscription}
    (h : Consistent initial subscriber needed (.taken feed) holds course) :
    Consistent initial subscriber needed (.acknowledged feed) holds (course.reach { course.service with
      main := { course.service.main with bus := course.service.main.bus.acknowledge feed } }) := by
  obtain ⟨hsettled, hfeed⟩ := h.turn
  let s : Service := { course.service with
    main := { course.service.main with bus := course.service.main.bus.acknowledge feed } }
  have hconfigs : (course.reach s).configs = course.configs :=
    @MainEngine.record_of_current _ s.main.bus h.serial.current
  have hdeliveries : (course.reach s).deliveries = course.deliveries := reach_deliveries rfl
  have hdelivered := h.delivered
  refine ⟨h.serial.aside rfl rfl rfl rfl (.inl ⟨rfl, rfl⟩), h.made.aside h.serial rfl (.inl ⟨rfl, rfl⟩), ?_, ?_⟩
  · refine ⟨⟨hdelivered.feeds.engines, hdelivered.feeds.rules, hdelivered.feeds.pauses⟩,
      hdelivered.positive, ?_, ?_, ?_, ?_⟩
    · rw [hdeliveries]
      exact hdelivered.bounded
    · rw [hdeliveries]
      exact hdelivered.delivered
    · rw [hdeliveries, hconfigs]
      exact hdelivered.last
    · intro version hmem
      rcases mem_acknowledge hmem with hold | ⟨old, hold, rfl⟩
      · exact hdelivered.handled version hold
      · have hle := hdelivered.handled old hold
        rw [hfeed] at hle
        exact Nat.max_le.2 ⟨hdelivered.handled old hold, Nat.le_of_eq (congrArg _ hfeed.symm)⟩
  · refine ⟨?_, hfeed⟩
    rw [Settled, concern, first, hdeliveries, hconfigs]
    exact hsettled

theorem Consistent.accept {change : ConfigChange} {engineFeed : Subscription}
    (h : Consistent initial subscriber needed (.handed change engineFeed) holds course) :
    Consistent initial subscriber needed
      (if Service.reloadsFor change then .handling else .waiting) holds
      (course.reach { course.service with engineFeed }) := by
  obtain ⟨hsettled, version, hlt, hle, rfl, rfl⟩ := h.turn
  have hdelivered := h.delivered
  let s : Service := { course.service with engineFeed :=
    { course.service.engineFeed with last := some (course.configs version), delivered := version } }
  have hconfigs : (course.reach s).configs = course.configs :=
    @MainEngine.record_of_current _ s.main.bus h.serial.current
  have hdeliveries : (course.reach s).deliveries = version :: course.deliveries :=
    if_neg (Nat.ne_of_gt hlt)
  refine ⟨h.serial.aside rfl rfl rfl rfl (.inl ⟨rfl, rfl⟩), h.made.aside h.serial rfl (.inl ⟨rfl, rfl⟩), ?_, ?_⟩
  · refine ⟨⟨hdelivered.feeds.engines, hdelivered.feeds.rules, hdelivered.feeds.pauses⟩,
      hdelivered.positive, ?_, ?_, ?_, ?_⟩
    · rw [hdeliveries]
      exact List.forall_mem_cons.2 ⟨hle, hdelivered.bounded⟩
    · rw [hdeliveries]
      rfl
    · rw [hdeliveries, hconfigs]
      rfl
    · intro old hmem
      exact Nat.le_trans (hdelivered.handled old hmem) (Nat.le_of_lt hlt)
  · by_cases hreload : Service.reloadsFor ⟨course.configs version, course.service.engineFeed.last, version⟩ = true
    · rw [if_pos hreload]
      intro old hmem
      exact Nat.lt_of_le_of_lt (hdelivered.handled old hmem) hlt
    · rw [if_neg hreload]
      change Settled needed (course.reach s)
      rw [Settled, concern, first, hdeliveries, hconfigs]
      have hlast := hdelivered.last
      cases hrest : course.deliveries with
      | nil => exact .inl rfl
      | cons previous rest =>
        rw [hrest] at hlast
        rw [hlast] at hreload
        have hconcern : lastConcern course.configs (version :: previous :: rest) =
            lastConcern course.configs (previous :: rest) := if_neg hreload
        have hfirst : (version :: previous :: rest).getLastD 0 = (previous :: rest).getLastD 0 := by
          rw [List.getLastD_cons, List.getLastD_cons, List.getLastD_cons]
        rw [Settled, concern, first, hrest] at hsettled
        rw [hconcern, hfirst]
        exact hsettled

/-- A trigger makes sure of everything up to the newest version. -/
theorem Consistent.trigger (h : Consistent initial subscriber needed .handling (.free :: holds) course)
    (hmove : MainEngine.Move subscriber .free course.service.main hold' s.main)
    (hsurely : s.main.dirty = true ∨ hold' = .unread) (hfeed : s.engineFeed = course.service.engineFeed)
    (hfeeds : Feeds subscriber s) :
    Consistent initial subscriber s.main.bus.version .waiting (hold' :: holds) (course.reach s) := by
  have haside : Aside subscriber course.service s := ⟨hfeeds, hfeed, hmove.bus⟩
  have hserial := h.serial.move hmove
  have hdelivered := h.delivered.aside h.serial.current haside
  refine ⟨hserial.need (Nat.le_refl _) (.inr ?_), h.serial.made hmove h.made, hdelivered, .inr ?_⟩
  · rcases hsurely with hdirty | rfl
    · exact .inl hdirty
    · exact .inr ⟨.unread, List.mem_cons_self, trivial⟩
  · exact lastConcern_le hdelivered.bounded

/-- Whatever the task for the engines does, the system stays consistent. -/
theorem Consistent.enginesMove (h : Consistent initial subscriber needed turn (hold :: holds) course)
    (hmove : Service.EnginesMove subscriber (hold, turn) course.service (hold', turn') s) :
    ∃ needed', Consistent initial subscriber needed' turn' (hold' :: holds) (course.reach s) := by
  have hfeeds := h.delivered.feeds
  cases hmove with
  | other turn hmove => exact ⟨needed, h.move hmove⟩
  | take => exact ⟨needed, h.onTurn ⟨h.turn, rfl⟩⟩
  | acknowledge feed => exact ⟨needed, h.acknowledge⟩
  | notice hnews =>
    obtain ⟨hsettled, rfl⟩ := h.turn
    exact ⟨needed, h.onTurn ⟨hsettled, rfl, h.delivered.lt_of_hasNews hnews⟩⟩
  | deliver feed =>
    obtain ⟨hsettled, rfl, hlt⟩ := h.turn
    refine ⟨needed, h.onTurn ⟨hsettled, course.service.main.bus.version, hlt, Nat.le_refl _, ?_, ?_⟩⟩
    · rw [h.serial.current]
      rfl
    · rw [h.serial.current]
      rfl
  | accept change engineFeed => exact ⟨needed, h.accept⟩
  | coalesce hrunning =>
    exact ⟨_, h.trigger (.coalesce hrunning) (.inl rfl) rfl ⟨hfeeds.engines, hfeeds.rules, hfeeds.pauses⟩⟩
  | acquire hrunning =>
    exact ⟨_, h.trigger (.acquire hrunning) (.inr rfl) rfl ⟨hfeeds.engines, hfeeds.rules, hfeeds.pauses⟩⟩

end Moves

theorem Consistent.may {initial : Published} {subscriber : Nat} {course : Course} {needed : Nat} {turn : Service.Turn} {hold : Hold} {holds : List Hold}
    (h : Consistent initial subscriber needed turn holds course) (hmem : hold ∈ holds) :
    (Service.lock subscriber).may hold course.service :=
  ⟨h.serial.may hmem, h.delivered.feeds⟩

theorem Delivered.delivered_le {subscriber : Nat} {course : Course} (h : Delivered subscriber course) :
    course.service.engineFeed.delivered ≤ course.service.main.bus.version := by
  rw [h.delivered]
  cases hlist : course.deliveries with
  | nil => exact Nat.zero_le _
  | cons version rest => exact h.bounded version (hlist ▸ List.mem_cons_self)

section Rest

variable {initial : Published} {subscriber needed : Nat} {turn : Service.Turn} {holds : List Hold}
  {course : Course} (h : Consistent initial subscriber needed turn holds course)
  (hquiet : course.Quiet)
include h hquiet

/-- At rest the newest version was the last to be delivered. -/
theorem Consistent.delivered_newest :
    course.service.engineFeed.delivered = course.service.main.bus.version := by
  have hhandled := hquiet.handled
  rw [h.delivered.feeds.engines] at hhandled
  exact Nat.le_antisymm h.delivered.delivered_le (h.delivered.handled _ hhandled)

theorem Consistent.settled : Settled needed course := by
  have hturn := h.turn
  cases turn with
  | waiting => exact hturn
  | taken | acknowledged | due | handed => exact hturn.1
  | handling =>
    -- what is being handled is newer than anything that was acknowledged
    have hhandled := hquiet.handled
    rw [h.delivered.feeds.engines] at hhandled
    have hlt := hturn _ hhandled
    rw [h.delivered_newest hquiet] at hlt
    exact absurd hlt (Nat.lt_irrefl _)

/-- At rest nothing is owed. -/
theorem Consistent.needed_le : needed ≤ course.version := by
  have hrunning : ¬ course.service.main.running = true := by
    rw [hquiet.running]
    exact Bool.false_ne_true
  refine h.serial.covered.resolve_right fun hlater => ?_
  rcases hlater with hdirty | ⟨hold, hmem, hcovers⟩
  · exact hrunning (h.serial.dirty hdirty)
  · refine hrunning (h.serial.running.2 ⟨hold, hmem, fun hfree => ?_⟩)
    rw [hfree] at hcovers
    exact hcovers

/-- At rest the newest configuration has the inputs of the last delivery that concerned the engines. -/
theorem Consistent.inputs_concern : course.inputs course.concern = course.service.config.engineInputs := by
  have hnewest := h.delivered_newest hquiet
  rw [h.delivered.delivered] at hnewest
  cases hlist : course.deliveries with
  | nil =>
    rw [hlist] at hnewest
    exact absurd hnewest (Nat.ne_of_lt h.delivered.positive)
  | cons version rest =>
    rw [hlist] at hnewest
    have hversion : version = course.service.main.bus.version := hnewest
    rw [inputs, concern, hlist, engineInputs_lastConcern, hversion]
    exact congrArg Config.engineInputs h.serial.current

/-- At rest only three things keep the engine in use from being current. -/
theorem Consistent.isCurrent_iff : course.IsCurrent ↔
    ¬ course.Misrestored initial ∧ ¬ course.Swallowed ∧ ¬ course.Overtaken := by
  have hsettled := h.settled hquiet
  have hneeded := h.needed_le hquiet
  have hinputs := h.inputs_concern hquiet
  constructor
  · rintro ⟨hreflects, hcurrent⟩
    have hsame : course.inputs course.version = course.inputs course.concern :=
      hcurrent.trans hinputs.symm
    refine ⟨fun ⟨hinitial, hnot⟩ => hnot (hinitial ▸ hreflects), fun ⟨hfirst, _, hne⟩ => hne ?_,
      fun ⟨_, hne⟩ => hne hsame⟩
    rw [← hfirst]
    exact hsame
  · rintro ⟨hrestored, hswallowed, hovertaken⟩
    refine ⟨?_, ?_⟩
    · rcases h.made with hinitial | hreflects
      · exact Classical.byContradiction fun hnot => hrestored ⟨hinitial, hinitial ▸ hnot⟩
      · exact hreflects
    · rw [← hinputs]
      refine Classical.byContradiction fun hne => ?_
      rcases Nat.lt_trichotomy course.version course.concern with hlt | heq | hgt
      · -- the engine is older than the last concern, so that was the first delivery
        have hfirst : course.concern = course.first := hsettled.resolve_right fun hle => by omega
        exact hswallowed ⟨hfirst, hfirst ▸ hlt, hfirst ▸ hne⟩
      · exact hne (congrArg course.inputs heq)
      · exact hovertaken ⟨hgt, hne⟩

end Rest

end Course

end ContentFilter
