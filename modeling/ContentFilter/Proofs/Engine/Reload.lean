import ContentFilter.Proofs.Config.Bus
import ContentFilter.Proofs.Engine.Registry
import ContentFilter.Proofs.Interleaving

/-! What a build of the main engine is made of, whatever other tasks do to the registry meanwhile. -/

namespace ContentFilter

/-- Engines by name that stand for some names of a configuration, in their order: its own lists are all
there, each made from its text. -/
structure Stands (config : Config) (ids : List String) (found : List (String × Engine)) : Prop where
  names : (found.map (·.1)).Sublist ids
  own : ∀ entry ∈ found, ∀ text, MainEngine.ownText config entry.1 = some text →
    entry.2.digest = MainEngine.ownDigest config entry.1 text
  all : ∀ id ∈ ids, (MainEngine.ownText config id).isSome → id ∈ found.map (·.1)

theorem Stands.nil (config : Config) : Stands config [] [] := ⟨.slnil, nofun, nofun⟩

theorem Stands.cons {config : Config} {id : String} {ids : List String}
    {found : List (String × Engine)} {engine : Engine} (h : Stands config ids found)
    (hown : ∀ text, MainEngine.ownText config id = some text →
      engine.digest = MainEngine.ownDigest config id text) :
    Stands config (id :: ids) ((id, engine) :: found) where
  names := h.names.cons_cons id
  own := List.forall_mem_cons.2 ⟨hown, h.own⟩
  all other hother hsome := by
    rcases List.mem_cons.1 hother with rfl | hother
    · exact List.mem_cons_self
    · exact List.mem_cons_of_mem id (h.all other hother hsome)

/-- A name that nothing could be had for is not the configuration's own. -/
theorem Stands.skip {config : Config} {id : String} {ids : List String}
    {found : List (String × Engine)} (h : Stands config ids found)
    (hforeign : MainEngine.ownText config id = none) : Stands config (id :: ids) found where
  names := h.names.cons id
  own := h.own
  all other hother hsome := by
    rcases List.mem_cons.1 hother with rfl | hother
    · rw [hforeign] at hsome
      cases hsome
    · exact h.all other hother hsome

/-- The engine is put together for a configuration: of the configured lists that could be had, with
the custom filters and the picked elements of the configuration. -/
def Published.Reflects (published : Published) (config : Config) : Prop :=
  ∃ found, Stands config (ListName.enabled config) found ∧
    published.engine = Engine.merge (found.map (·.2)) ∧ published.ids = found.map (·.1)

/-- What a build of the main engine takes from a configuration. -/
structure EngineInputs where
  names : List String
  customFilters : Option String
  trustedScriptlets : Bool
  pickedElements : KeyMap (List String)
  deriving DecidableEq

def Config.engineInputs (config : Config) : EngineInputs where
  names := ListName.enabled config
  customFilters := config.effectiveCustomFilters
  trustedScriptlets := config.customFilters.trustedScriptlets
  pickedElements := config.elementPickerSelectors

theorem Stands.congr {config other : Config} {ids : List String} {found : List (String × Engine)}
    (h : Stands config ids found) (heq : other.engineInputs = config.engineInputs) :
    Stands other ids found := by
  have hcustom : other.effectiveCustomFilters = config.effectiveCustomFilters :=
    congrArg EngineInputs.customFilters heq
  have htrust : other.customFilters.trustedScriptlets = config.customFilters.trustedScriptlets :=
    congrArg EngineInputs.trustedScriptlets heq
  have hpicked : other.elementPickerSelectors = config.elementPickerSelectors :=
    congrArg EngineInputs.pickedElements heq
  have htext : MainEngine.ownText other = MainEngine.ownText config := by
    funext id
    rw [MainEngine.ownText, MainEngine.ownText, hcustom, Config.pickedFilters, Config.pickedFilters,
      hpicked]
  have hdigest : MainEngine.ownDigest other = MainEngine.ownDigest config := by
    funext id text
    rw [MainEngine.ownDigest, MainEngine.ownDigest, htrust]
  exact ⟨h.names, by rw [htext, hdigest]; exact h.own, by rw [htext]; exact h.all⟩

/-- Configurations with the same inputs are reflected by the same engines. -/
theorem Published.Reflects.congr {published : Published} {config other : Config}
    (h : published.Reflects config) (heq : other.engineInputs = config.engineInputs) :
    published.Reflects other := by
  obtain ⟨found, hstands, hpublished⟩ := h
  have hnames : ListName.enabled other = ListName.enabled config := congrArg EngineInputs.names heq
  exact ⟨found, hnames ▸ hstands.congr heq, hpublished⟩

namespace Registry

variable {α : Type}

theorem yields_exclusively {name : String} {task : Task Registry α} {post : α → Prop}
    (h : task.Yields post) : (exclusively name task).Yields post := fun _ _ => h.withCleanup

theorem yields_insert (name : String) (engine : Engine) : (insert name engine).Yields (· = engine) :=
  yields_exclusively fun _ _ _ _ => rfl

end Registry

namespace MainEngine

open Registry

/-- A list of the configuration's own is always had, with the digest of its text. -/
theorem yields_resolveList (config : Config) (id : String) :
    (resolveList config id).Yields fun result => ∀ text, ownText config id = some text →
      ∃ engine, result = .ok engine ∧ engine.digest = ownDigest config id text := by
  rw [resolveList]
  cases hown : ownText config id with
  | none => exact (Task.yields_any _).mono fun _ _ _ hnone => absurd hnone (by simp)
  | some text =>
    have hown : ∀ result : Except Failure Engine,
        (∃ engine, result = .ok engine ∧ engine.digest = ownDigest config id text) →
        ∀ other, some text = some other →
          ∃ engine, result = .ok engine ∧ engine.digest = ownDigest config id other := by
      intro result hresult other hother
      obtain rfl := Option.some.inj hother
      exact hresult
    have hcompile : (do
        let origin ← freshOrigin
        pure (.ok (← insert id (compileOwn config origin id text))) :
          Task Registry (Except Failure Engine)).Yields fun result =>
        ∃ engine, result = .ok engine ∧ engine.digest = ownDigest config id text :=
      (Task.yields_any _).bind fun origin _ => (yields_insert id _).bind fun engine hengine =>
        Task.yields_pure ⟨engine, rfl, hengine ▸ digest_compileOwn config origin id text⟩
    refine Task.Yields.mono ?_ hown
    refine (Task.yields_any _).bind fun found _ => ?_
    cases found with
    | none => exact hcompile
    | some engine =>
      dsimp only
      split
      · next hdigest => exact Task.yields_pure ⟨engine, rfl, hdigest⟩
      · exact hcompile

theorem yields_resolveEach (config : Config) (ids : List String) :
    (resolveEach config ids).Yields fun found => Stands config ids (found.filterMap id) := by
  rw [resolveEach]
  induction ids with
  | nil => exact Task.yields_pure (Stands.nil config)
  | cons name ids ih =>
    rw [List.mapM_cons, bind_assoc]
    refine (yields_resolveList config name).bind fun result hresult => ?_
    rw [pure_bind]
    refine ih.bind fun found hfound => Task.yields_pure ?_
    cases result with
    | error cause =>
      refine hfound.skip (Option.eq_none_iff_forall_ne_some.2 fun text hown => ?_)
      obtain ⟨engine, heq, -⟩ := hresult text hown
      cases heq
    | ok engine =>
      refine hfound.cons fun text hown => ?_
      obtain ⟨other, heq, hdigest⟩ := hresult text hown
      cases heq
      exact hdigest

/-- Whatever happens during a build, its lists stand for the configuration. -/
theorem yields_build (config : Config) (ids : List String) :
    (build config ids).Yields fun built => ∃ found, Stands config ids found ∧
      built = (Engine.merge (found.map (·.2)), found.map (·.1)) := by
  refine (yields_resolveEach config ids).bind fun found hfound => ?_
  refine (yields_insert ListName.main _).bind fun main hmain => ?_
  exact Task.yields_pure ⟨_, hfound, by rw [hmain]⟩

end MainEngine

end ContentFilter

/-! The reload of the main engine among other tasks. Whoever finds no reload running becomes its owner;
an owner reads the configuration, publishes what it built for it, and goes round again if it was
triggered meanwhile. -/

namespace ContentFilter

/-- How far a task is with the reload that it runs. -/
inductive Hold where
  | free
  | unread
  | read (version : Nat) (config : Config)
  | stamped (version : Nat) (config : Config) (generation : Nat)
  | published

namespace MainEngine

/-- A move of a task on the main engine. Tasks without the reload leave what it works on as it is. -/
inductive Move (subscriber : Nat) : Hold → MainEngine → Hold → MainEngine → Prop where
  | aside (hold : Hold) {m m' : MainEngine} (published : m'.published = m.published)
      (generation : m'.generation = m.generation) (running : m'.running = m.running)
      (dirty : m'.dirty = m.dirty) (bus : Bus.Aside subscriber m.bus m'.bus) :
      Move subscriber hold m hold m'
  | coalesce {m : MainEngine} (running : m.running = true) :
      Move subscriber .free m .free { m with dirty := true }
  | acquire {m : MainEngine} (running : m.running = false) :
      Move subscriber .free m .unread { m with running := true }
  | read (m : MainEngine) : Move subscriber .unread m (.read m.bus.version m.bus.config) m
  | stamp (version : Nat) (config : Config) (m : MainEngine) :
      Move subscriber (.read version config) m (.stamped version config (m.generation + 1))
        { m with generation := m.generation + 1 }
  | publish {version generation : Nat} {config : Config} {m : MainEngine} {new : Published}
      (hgeneration : new.generation = generation) (hversion : new.version = version)
      (reflects : new.Reflects config) :
      Move subscriber (.stamped version config generation) m .published { m with published := new }
  | again {m : MainEngine} (dirty : m.dirty = true) :
      Move subscriber .published m .unread { m with dirty := false }
  | release {m : MainEngine} (dirty : m.dirty = false) :
      Move subscriber .published m .free { m with running := false }

theorem Move.bus {subscriber : Nat} {hold hold' : Hold} {m m' : MainEngine}
    (h : Move subscriber hold m hold' m') : Bus.Aside subscriber m.bus m'.bus := by
  cases h with
  | aside hold hpublished hgeneration hrunning hdirty hbus => exact hbus
  | coalesce | acquire | read | stamp | publish | again | release => exact .refl m.bus

/-- What the owner of a reload may rely on: nothing newer than its own stamp is published. -/
def may : Hold → MainEngine → Prop
  | .stamped _ _ generation, m => m.published.generation < generation
  | _, _ => True

def lock (subscriber : Nat) : Task.Discipline Hold MainEngine := ⟨may, Move subscriber⟩

variable {subscriber : Nat} {α : Type}

/-- What a job with a reload in it comes to: it is over and free, or owns the reload still and has a
rest that does without. -/
def JobEnds (subscriber : Nat) : Reloading α → Hold → Prop
  | .ended _, hold => hold = .free
  | .again _ rest, hold => hold = .unread ∧
    ∀ reload, (rest reload).Follows (lock subscriber) (fun _ hold => hold = .free) .free

/-- Work on the registry is nothing to the reload. -/
theorem follows_onRegistry {hold : Hold} {task : Task Registry α} {post : α → Prop}
    (h : task.Yields post) :
    (onRegistry task).Follows (lock subscriber) (fun a final => final = hold ∧ post a) hold :=
  Task.follows_within (fun _ m _ => .aside hold rfl rfl rfl rfl (.refl m.bus)) h

theorem follows_publish {version generation : Nat} {config : Config} {new : Published}
    (hgeneration : new.generation = generation) (hversion : new.version = version)
    (hreflects : new.Reflects config) :
    (Task.change (publish new)).Follows (lock subscriber) (fun _ hold => hold = .published)
      (.stamped version config generation) := by
  intro m hm _
  have hnew : m.published.generation < new.generation := hgeneration ▸ hm
  have hmove : Move subscriber (.stamped version config generation) m .published (publish new m) := by
    rw [publish, if_pos hnew]
    exact .publish hgeneration hversion hreflects
  exact ⟨.published, hmove, rfl⟩

/-- A round publishes an engine for the configuration that it read, and either frees the reload or
owns it still. -/
theorem follows_reloadRound : reloadRound.Follows (lock subscriber)
    (fun result hold => hold = if result.isNone then .unread else .free) .unread := by
  rintro m - -
  refine ⟨_, .read m, ?_⟩
  rintro m' - -
  refine ⟨_, .stamp m.bus.version m.bus.config m', ?_⟩
  have hbuild := yields_build m.bus.config (ListName.enabled m.bus.config)
  refine (follows_onRegistry hbuild).bind fun built hold hbuilt => ?_
  obtain ⟨rfl, found, hstands, rfl⟩ := hbuilt
  refine (follows_publish rfl rfl ⟨found, hstands, rfl, rfl⟩).bind fun _ hold hpublished => ?_
  subst hpublished
  rintro m - -
  dsimp only
  by_cases hdirty : m.dirty = true
  · rw [if_pos hdirty]
    exact ⟨.unread, .again hdirty, rfl⟩
  · rw [if_neg hdirty]
    exact ⟨.free, .release (Bool.eq_false_iff.2 hdirty), rfl⟩

variable {abandon : MainEngine → MainEngine} {rest : Reload → Task MainEngine α}

/-- An owner gives the reload back before the rest of its job. -/
theorem follows_reloadThen (hrest : ∀ reload, (rest reload).Follows (lock subscriber)
    (fun _ hold => hold = .free) .free) :
    (reloadThen abandon rest).Follows (lock subscriber) (JobEnds subscriber) .unread := by
  refine .guarded (follows_reloadRound.guarded.bind fun result hold hhold => ?_)
  subst hhold
  cases result with
  | none => exact ⟨rfl, hrest⟩
  | some reload => exact (hrest reload).bind fun _ _ hhold => hhold

/-- A trigger makes its job the owner of the reload, unless another job is. -/
theorem follows_triggerThen (hrest : ∀ reload, (rest reload).Follows (lock subscriber)
    (fun _ hold => hold = .free) .free) :
    (triggerThen abandon rest).Follows (lock subscriber) (JobEnds subscriber) .free := by
  rintro m - -
  dsimp only
  by_cases hrunning : m.running = true
  · rw [if_pos hrunning]
    exact ⟨.free, .coalesce hrunning, (hrest .coalesced).guarded.bind fun _ _ hhold => hhold⟩
  · rw [if_neg hrunning]
    exact ⟨.unread, .acquire (Bool.eq_false_iff.2 hrunning), follows_reloadThen hrest⟩

theorem follows_finishUpdate (now : Nat) (outcome : UpdateOutcome) :
    (finishUpdate now outcome).Follows (lock subscriber) (fun _ hold => hold = .free) .free := by
  rintro m - -
  refine ⟨.free, .aside .free rfl rfl rfl rfl (Bus.aside_update _ m.bus), ?_⟩
  rintro m - -
  exact ⟨.free, .aside .free rfl rfl rfl rfl (.refl m.bus), rfl⟩

theorem follows_update (now : Nat) :
    (update now).Follows (lock subscriber) (JobEnds subscriber) .free := by
  rintro m - -
  refine ⟨.free, .aside .free rfl rfl rfl rfl (.refl m.bus), ?_⟩
  dsimp only [Task.done_bind]
  by_cases hupdating : m.updating = true
  · rw [if_pos hupdating]
    exact (rfl : Hold.free = .free)
  · rw [if_neg hupdating]
    have hlists : (Task.guarded stopUpdate do
        let config ← Task.read fun m => m.bus.config
        onRegistry (updateLists (ListName.enabled config)) : Task MainEngine Bool).Follows
        (lock subscriber) (fun _ hold => hold = .free) .free := by
      refine .guarded fun m _ _ => ⟨.free, .aside .free rfl rfl rfl rfl (.refl m.bus), ?_⟩
      exact (follows_onRegistry (Task.yields_any _)).mono fun _ _ hhold => hhold.1
    refine hlists.bind fun changed hold hhold => ?_
    subst hhold
    split
    · exact follows_triggerThen fun _ => follows_finishUpdate now .reloaded
    · exact (follows_finishUpdate now .unchanged).guarded.bind fun _ _ hhold => hhold

end MainEngine

/-- What the owner of the reload read is one of the published configurations and no older than the
engine in use. -/
def Hold.Knows (configs : Nat → Config) (m : MainEngine) : Hold → Prop
  | .read version config =>
    configs version = config ∧ m.published.version ≤ version ∧ version ≤ m.bus.version
  | .stamped version config generation =>
    (configs version = config ∧ m.published.version ≤ version ∧ version ≤ m.bus.version) ∧
      m.published.generation < generation ∧ generation ≤ m.generation
  | _ => True

/-- The owner will publish an engine for this version or a newer one. -/
def Hold.Covers (needed : Nat) : Hold → Prop
  | .unread => True
  | .read version _ => needed ≤ version
  | .stamped version _ _ => needed ≤ version
  | _ => False

namespace MainEngine

/-- The tasks with these holds take turns at the reload, and none forgets a trigger: until the engine
in use is as new as needed, a reload is running that will see to it. -/
structure Serial (configs : Nat → Config) (needed : Nat) (m : MainEngine) (holds : List Hold) : Prop where
  alone : holds.Pairwise fun a b => a = .free ∨ b = .free
  running : m.running = true ↔ ∃ hold ∈ holds, hold ≠ .free
  dirty : m.dirty = true → m.running = true
  generation : m.published.generation ≤ m.generation
  version : m.published.version ≤ m.bus.version
  bound : needed ≤ m.bus.version
  current : configs m.bus.version = m.bus.config
  knows : ∀ hold ∈ holds, hold.Knows configs m
  covered : needed ≤ m.published.version ∨ m.dirty = true ∨ ∃ hold ∈ holds, hold.Covers needed

/-- The configurations by version, with the newest one. -/
def record (configs : Nat → Config) (bus : Bus) : Nat → Config :=
  fun version => if version = bus.version then bus.config else configs version

theorem record_of_current {configs : Nat → Config} {bus : Bus}
    (h : configs bus.version = bus.config) : record configs bus = configs := by
  funext version
  rw [record]
  split
  · next heq => rw [heq, h]
  · rfl

/-- A newer configuration does not change what is known of the others. -/
theorem record_of_le {configs : Nat → Config} {bus bus' : Bus} (hcurrent : configs bus.version = bus.config)
    (hgrows : bus.Grows bus') {version : Nat} (hle : version ≤ bus.version) :
    record configs bus' version = configs version := by
  rcases hgrows with ⟨hversion, hconfig⟩ | hlt
  · have hsame : configs bus'.version = bus'.config := by rw [hversion, hconfig, hcurrent]
    rw [record_of_current hsame]
  · exact if_neg (by omega)

variable {configs : Nat → Config} {needed : Nat} {m m' : MainEngine} {holds : List Hold}

theorem Serial.may {hold : Hold} (h : Serial configs needed m holds) (hmem : hold ∈ holds) :
    may hold m := by
  have hknows := h.knows hold hmem
  cases hold with
  | free | unread | read | published => trivial
  | stamped version config generation => exact hknows.2.1

theorem Serial.perm {holds' : List Hold} (h : Serial configs needed m holds)
    (hperm : holds.Perm holds') : Serial configs needed m holds' where
  alone := (hperm.pairwise_iff fun hab => hab.symm).1 h.alone
  running := h.running.trans (exists_congr fun _ => and_congr_left' hperm.mem_iff)
  dirty := h.dirty
  generation := h.generation
  version := h.version
  bound := h.bound
  current := h.current
  knows hold hmem := h.knows hold (hperm.mem_iff.2 hmem)
  covered := h.covered.imp_right fun hlater => hlater.imp_right fun ⟨hold, hmem, hcovers⟩ =>
    ⟨hold, hperm.mem_iff.1 hmem, hcovers⟩

/-- A new task begins without the reload. -/
theorem Serial.cons_free (h : Serial configs needed m holds) :
    Serial configs needed m (.free :: holds) where
  alone := List.pairwise_cons.2 ⟨fun _ _ => .inl rfl, h.alone⟩
  running := by
    refine h.running.trans ⟨fun ⟨hold, hmem, hne⟩ => ⟨hold, List.mem_cons_of_mem _ hmem, hne⟩, ?_⟩
    intro ⟨hold, hmem, hne⟩
    exact ⟨hold, (List.mem_cons.1 hmem).resolve_left hne, hne⟩
  dirty := h.dirty
  generation := h.generation
  version := h.version
  bound := h.bound
  current := h.current
  knows := List.forall_mem_cons.2 ⟨trivial, h.knows⟩
  covered := h.covered.imp_right fun hlater => hlater.imp_right fun ⟨hold, hmem, hcovers⟩ =>
    ⟨hold, List.mem_cons_of_mem _ hmem, hcovers⟩

theorem Serial.need {needed' : Nat} (h : Serial configs needed m holds)
    (hbound : needed' ≤ m.bus.version)
    (hcovered : needed' ≤ m.published.version ∨ m.dirty = true ∨ ∃ hold ∈ holds, hold.Covers needed') :
    Serial configs needed' m holds :=
  ⟨h.alone, h.running, h.dirty, h.generation, h.version, hbound, h.current, h.knows, hcovered⟩

/-- A newer configuration and other work leave the reload as it was. -/
theorem Serial.aside (h : Serial configs needed m holds)
    (hpublished : m'.published = m.published) (hgeneration : m'.generation = m.generation)
    (hrunning : m'.running = m.running) (hdirty : m'.dirty = m.dirty)
    (hgrows : m.bus.Grows m'.bus) : Serial (record configs m'.bus) needed m' holds := by
  have hle := hgrows.version_le
  refine ⟨h.alone, hrunning ▸ h.running, ?_, ?_, ?_, Nat.le_trans h.bound hle, if_pos rfl, ?_, ?_⟩
  · rw [hdirty, hrunning]
    exact h.dirty
  · rw [hpublished, hgeneration]
    exact h.generation
  · rw [hpublished]
    exact Nat.le_trans h.version hle
  · intro hold hmem
    have hknows := h.knows hold hmem
    cases hold with
    | free | unread | published => trivial
    | read version config =>
      obtain ⟨hconfig, hold, hversion⟩ := hknows
      exact ⟨(record_of_le h.current hgrows hversion).trans hconfig, hpublished ▸ hold,
        Nat.le_trans hversion hle⟩
    | stamped version config generation =>
      obtain ⟨⟨hconfig, hold, hversion⟩, hstamp⟩ := hknows
      exact ⟨⟨(record_of_le h.current hgrows hversion).trans hconfig, hpublished ▸ hold,
        Nat.le_trans hversion hle⟩, by rw [hpublished, hgeneration]; exact hstamp⟩
  · rw [hpublished, hdirty]
    exact h.covered

/-- The reload and the only task that may own it. -/
structure Sole (configs : Nat → Config) (needed : Nat) (m : MainEngine) (hold : Hold) : Prop where
  running : m.running = true ↔ hold ≠ .free
  dirty : m.dirty = true → m.running = true
  generation : m.published.generation ≤ m.generation
  version : m.published.version ≤ m.bus.version
  bound : needed ≤ m.bus.version
  current : configs m.bus.version = m.bus.config
  knows : hold.Knows configs m
  covered : needed ≤ m.published.version ∨ m.dirty = true ∨ hold.Covers needed

theorem serial_cons_iff {hold : Hold} (hfree : ∀ other ∈ holds, other = .free) :
    Serial configs needed m (hold :: holds) ↔ Sole configs needed m hold := by
  have hother : ∀ p : Hold → Prop, ¬ p .free → ((∃ other ∈ hold :: holds, p other) ↔ p hold) := by
    intro p hnot
    refine ⟨fun ⟨other, hmem, hp⟩ => ?_, fun hp => ⟨hold, List.mem_cons_self, hp⟩⟩
    rcases List.mem_cons.1 hmem with rfl | hmem
    · exact hp
    · exact absurd (hfree other hmem ▸ hp) hnot
  have howner := hother (· ≠ .free) fun h => h rfl
  have hcovers := hother (·.Covers needed) id
  constructor
  · intro h
    exact ⟨h.running.trans howner, h.dirty, h.generation, h.version, h.bound, h.current,
      h.knows hold List.mem_cons_self, h.covered.imp_right (Or.imp_right hcovers.1)⟩
  · intro h
    refine ⟨?_, h.running.trans howner.symm, h.dirty, h.generation, h.version, h.bound, h.current,
      List.forall_mem_cons.2 ⟨h.knows, ?_⟩, h.covered.imp_right (Or.imp_right hcovers.2)⟩
    · refine List.pairwise_cons.2 ⟨fun other hmem => .inr (hfree other hmem), ?_⟩
      exact List.pairwise_of_forall_mem_list fun a ha b _ => .inl (hfree a ha)
    · intro other hmem
      rw [hfree other hmem]
      trivial

/-- Where one task owns the reload or none does, the others are free. -/
theorem Serial.others_free {hold : Hold} (h : Serial configs needed m (hold :: holds))
    (howner : hold ≠ .free ∨ m.running = false) : ∀ other ∈ holds, other = .free := by
  intro other hmem
  rcases howner with hne | hrunning
  · exact ((List.pairwise_cons.1 h.alone).1 other hmem).resolve_left hne
  · refine Classical.byContradiction fun hne => ?_
    have hrun := h.running.2 ⟨other, List.mem_cons_of_mem _ hmem, hne⟩
    rw [hrunning] at hrun
    cases hrun

/-- What the owner of the reload does, or the task that finds none, only has to be right for itself. -/
theorem Serial.owner_move {hold hold' : Hold} (h : Serial configs needed m (hold :: holds))
    (howner : hold ≠ .free ∨ m.running = false) (hbus : m'.bus = m.bus)
    (hstep : Sole configs needed m hold → Sole configs needed m' hold') :
    Serial (record configs m'.bus) needed m' (hold' :: holds) := by
  rw [hbus, record_of_current h.current]
  have hfree := h.others_free howner
  exact (serial_cons_iff hfree).2 (hstep ((serial_cons_iff hfree).1 h))

/-- Whatever a task does, the reload stays with one of them. -/
theorem Serial.move {subscriber : Nat} {hold hold' : Hold} (h : Serial configs needed m (hold :: holds))
    (hmove : Move subscriber hold m hold' m') :
    Serial (record configs m'.bus) needed m' (hold' :: holds) := by
  cases hmove with
  | aside hold hpublished hgeneration hrunning hdirty hbus =>
    exact h.aside hpublished hgeneration hrunning hdirty hbus.grows
  | coalesce hrunning =>
    rw [record_of_current h.current]
    exact ⟨h.alone, h.running, fun _ => hrunning, h.generation, h.version, h.bound, h.current, h.knows,
      .inr (.inl rfl)⟩
  | acquire hrunning =>
    refine h.owner_move (.inr hrunning) rfl fun hsole => ?_
    exact ⟨⟨fun _ => nofun, fun _ => rfl⟩, fun _ => rfl, hsole.generation, hsole.version, hsole.bound,
      hsole.current, trivial, .inr (.inr trivial)⟩
  | read =>
    refine h.owner_move (.inl nofun) rfl fun hsole => ?_
    exact ⟨⟨fun _ => nofun, fun _ => hsole.running.2 nofun⟩, hsole.dirty, hsole.generation,
      hsole.version, hsole.bound, hsole.current, ⟨hsole.current, hsole.version, Nat.le_refl _⟩,
      .inr (.inr hsole.bound)⟩
  | stamp version config =>
    refine h.owner_move (.inl nofun) rfl fun hsole => ?_
    exact ⟨⟨fun _ => nofun, fun _ => hsole.running.2 nofun⟩, hsole.dirty,
      Nat.le_succ_of_le hsole.generation, hsole.version, hsole.bound, hsole.current,
      ⟨hsole.knows, Nat.lt_succ_of_le hsole.generation, Nat.le_refl _⟩, hsole.covered⟩
  | publish hgeneration hversion hreflects =>
    refine h.owner_move (.inl nofun) rfl fun hsole => ?_
    obtain ⟨⟨-, hnewer, hpast⟩, -, hstamp⟩ := hsole.knows
    subst hgeneration hversion
    refine ⟨⟨fun _ => nofun, fun _ => hsole.running.2 nofun⟩, hsole.dirty, hstamp, hpast, hsole.bound,
      hsole.current, trivial, ?_⟩
    -- what was owed by the owner, or done already, is done now
    rcases hsole.covered with hdone | hdirty | howed
    · exact .inl (Nat.le_trans hdone hnewer)
    · exact .inr (.inl hdirty)
    · exact .inl howed
  | again hdirty =>
    refine h.owner_move (.inl nofun) rfl fun hsole => ?_
    exact ⟨⟨fun _ => nofun, fun _ => hsole.running.2 nofun⟩, nofun, hsole.generation, hsole.version,
      hsole.bound, hsole.current, trivial, .inr (.inr trivial)⟩
  | release hdirty =>
    refine h.owner_move (.inl nofun) rfl fun hsole => ?_
    refine ⟨⟨nofun, fun hne => absurd rfl hne⟩, ?_, hsole.generation, hsole.version, hsole.bound,
      hsole.current, trivial, ?_⟩
    · intro hset
      rw [hdirty] at hset
      cases hset
    · refine .inl (hsole.covered.resolve_right fun hlater => ?_)
      rw [hdirty] at hlater
      exact hlater.elim nofun id

/-- The engine in use is the first one, or was built for the configuration of its version. -/
def Made (initial : Published) (configs : Nat → Config) (published : Published) : Prop :=
  published = initial ∨ published.Reflects (configs published.version)

theorem Made.aside {initial : Published} (h : Made initial configs m.published)
    (hserial : Serial configs needed m holds) (hpublished : m'.published = m.published)
    (hgrows : m.bus.Grows m'.bus) : Made initial (record configs m'.bus) m'.published := by
  rw [Made, hpublished, record_of_le hserial.current hgrows hserial.version]
  exact h

theorem Serial.made {initial : Published} {subscriber : Nat} {hold hold' : Hold}
    (h : Serial configs needed m (hold :: holds)) (hmove : Move subscriber hold m hold' m')
    (hmade : Made initial configs m.published) :
    Made initial (record configs m'.bus) m'.published := by
  cases hmove with
  | aside hold hpublished hgeneration hrunning hdirty hbus =>
    exact hmade.aside h hpublished hbus.grows
  | publish hgeneration hversion hreflects =>
    obtain ⟨⟨hconfig, -⟩, -⟩ := h.knows _ List.mem_cons_self
    rw [record_of_current h.current]
    refine .inr ?_
    rw [hversion, hconfig]
    exact hreflects
  | coalesce | acquire | read | stamp | again | release =>
    rw [record_of_current h.current]
    exact hmade

end MainEngine

end ContentFilter
