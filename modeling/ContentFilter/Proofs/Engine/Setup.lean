import ContentFilter.Proofs.Config.ListName
import ContentFilter.Proofs.Data.Distinct
import ContentFilter.Proofs.Engine.Upkeep

/-! Setting up the main engine. A rebuilt engine has the lists that the configuration comes to; a stored
one is taken for its names alone, so it has them only if it is no older. Under every name but that of the
main engine a registry has one list of that name, if nobody puts another one there. -/

namespace ContentFilter

/-- One list of that name. -/
def IsLeaf (name : String) (lists : List FilterList) : Prop := ∃ list, lists = [list] ∧ list.name = name

namespace Registry

/-- Under every name but that of the main engine there is one list of that name, if any. -/
def LeavesNamed (r : Registry) : Prop :=
  ∀ name ≠ ListName.main, ∀ lists, r.lists? name = some lists → IsLeaf name lists

/-- Lists that may stand under a name: one of that name. The main engine may have any. -/
def MayName (name : String) (lists : List FilterList) : Prop :=
  name ≠ ListName.main → IsLeaf name lists

theorem mayName_parse (name text : String) : MayName name [(FilterList.parse name text).1] :=
  fun _ => ⟨_, rfl, rfl⟩

theorem mayOwn_mayName (config : Config) : MayOwn MayName config := by
  intro name text hown hne
  refine ⟨_, rfl, ?_⟩
  rw [MainEngine.ownList]
  split
  · next hname => exact (eq_of_beq hname).symm
  · rfl

/-- The shipped snapshots are of one list each, with the name of its file. -/
def ShipsNames (bundled : FileSource) (_ : Option FileSource) : Prop :=
  ∀ name data, bundled.bytes (FileSource.snapshotFile name) = .ok data → Holds MayName name data

/-- Work that puts nothing but a list of its name under a name. -/
def Work.KeepsNames : Work → Prop
  | insert name contents => name = ListName.main ∨
    ∃ content : ListContent, contents = [content] ∧ content.name = name ∧ content.WellFormed
  | replace name _ => name = ListName.main
  | supply bundled remote _ => ShipsNames bundled remote
  | _ => True

theorem ShipsNames.supplied {bundled : FileSource} {remote : Option FileSource}
    (h : ShipsNames bundled remote) : Supplied MayName bundled remote :=
  ⟨h, fun name text _ => mayName_parse name text, fun _ _ name text _ => mayName_parse name text⟩

theorem Work.puts_of_keepsNames {work : Work} (h : work.KeepsNames) : work.Puts MayName := by
  have hmain : ∀ lists, MayName ListName.main lists := fun _ hne => absurd rfl hne
  cases work with
  | init | update | remove | resolve | updateLists => trivial
  | create name text => exact mayName_parse name text
  | insert name contents =>
    rcases h with rfl | ⟨content, rfl, rfl, hwell⟩
    · exact .inl hmain
    · exact .inr ⟨fun _ => ⟨_, rfl, rfl⟩, List.forall_mem_singleton.2 hwell⟩
  | replace name names =>
    obtain rfl : name = ListName.main := h
    exact hmain
  | applyCustomFilters config => exact mayOwn_mayName config
  | build config => exact ⟨mayOwn_mayName config, hmain⟩
  | supply bundled remote fails => exact ShipsNames.supplied h

/-- Whatever earlier runs have stored, every name but that of the main engine has one list of that name. -/
theorem Run.leavesNamed {r : Registry} (h : Run Work.KeepsNames ShipsNames r) : r.LeavesNamed := by
  obtain ⟨made, hmade⟩ := h.upkept (fun _ => Work.puts_of_keepsNames) fun _ _ => ShipsNames.supplied
  exact fun name hname lists hlists => hmade.lists hlists hname

/-- Every name but that of the main engine comes to what it came to. -/
structure Steady (config : Config) (r r' : Registry) : Prop where
  bundled : r'.bundled = r.bundled
  remote : r'.remote = r.remote
  busy : r'.busy = r.busy
  leaf : ∀ name ≠ ListName.main, r'.leafLists? config name = r.leafLists? config name

theorem Steady.refl (config : Config) (r : Registry) : Steady config r r :=
  ⟨rfl, rfl, rfl, fun _ _ => rfl⟩

theorem Steady.trans {config : Config} {a b c : Registry} (hab : Steady config a b)
    (hbc : Steady config b c) : Steady config a c where
  bundled := hbc.bundled.trans hab.bundled
  remote := hbc.remote.trans hab.remote
  busy := hbc.busy.trans hab.busy
  leaf name hne := (hbc.leaf name hne).trans (hab.leaf name hne)

theorem Steady.prompt {config : Config} {r r' : Registry} (h : Steady config r r')
    (hr : r.Prompt) : r'.Prompt where
  bundled := h.bundled ▸ hr.bundled
  remote source hsource := hr.remote source (h.remote ▸ hsource)

/-- Work on the main engine leaves the lists alone. -/
theorem Apart.steady {r r' : Registry} (h : Apart ListName.main r r') (config : Config) :
    Steady config r r' :=
  ⟨h.bundled, h.remote, h.busy, fun _ hne => h.leafLists? hne config⟩

theorem Resolved.steady {config : Config} {name : String} {r r' : Registry}
    {result : Except Failure Engine} (h : Resolved config name r result r') : Steady config r r' := by
  refine ⟨h.apart.bundled, h.apart.remote, h.apart.busy, fun other _ => ?_⟩
  by_cases hother : other = name
  · rw [hother]
    exact h.kept
  · exact h.apart.leafLists? hother config

theorem ownText_isSome {config : Config} {name text : String}
    (h : MainEngine.ownText config name = some text) :
    name = ListName.custom ∨ name = ListName.elementPicker := by
  rw [MainEngine.ownText] at h
  split at h
  · next hname => exact .inl (eq_of_beq hname)
  split at h
  · next hname => exact .inr (eq_of_beq hname)
  · cases h

/-- The names that come to lists, each with its lists, in their order. -/
def resolved (r : Registry) (config : Config) (ids : List String) : List (String × List FilterList) :=
  ids.filterMap fun name => (r.leafLists? config name).map fun lists => (name, lists)

/-- These engines have what the names come to, in their order. -/
def Resolves (r : Registry) (config : Config) (ids : List String) (found : List (String × Engine)) :
    Prop := found.map (fun entry => (entry.1, entry.2.lists)) = r.resolved config ids

theorem LeavesNamed.leafLists? {r : Registry} (h : r.LeavesNamed) {config : Config} {name : String}
    (hname : name ≠ ListName.main) {lists : List FilterList}
    (hlists : r.leafLists? config name = some lists) : IsLeaf name lists := by
  rw [Registry.leafLists?] at hlists
  split at hlists
  · rcases Option.or_eq_some_iff.1 hlists with hlists | ⟨-, hlists⟩
    · exact h name hname lists hlists
    · obtain ⟨text, -, rfl⟩ := Option.map_eq_some_iff.1 hlists
      exact ⟨_, rfl, rfl⟩
  · next text hown =>
    rcases Option.or_eq_some_iff.1 hlists with hlists | ⟨-, hlists⟩
    · exact h name hname lists (Option.filter_eq_some_iff.1 hlists).1
    · cases hlists
      rcases ownText_isSome hown with rfl | rfl <;> exact ⟨_, rfl, rfl⟩

end Registry

namespace MainEngine

open Registry

/-- What is done on the registry leaves the rest of the main engine alone. -/
theorem ends_onRegistry {α : Type} {task : Task Registry α} {m : MainEngine}
    {post : α → MainEngine → Prop}
    (h : task.Ends m.registry fun a registry => post a { m with registry := registry }) :
    (onRegistry task).Ends m post :=
  @Task.ends_within _ _ _ (fun m : MainEngine => m.registry) (fun registry m => { m with registry })
    (fun _ _ => rfl) (fun _ _ _ => rfl) task m rfl post h

/-- Each name is resolved in its turn, and none is in the way of another. -/
theorem ends_resolveEach {r : Registry} (config : Config) {ids : List String} (hprompt : r.Prompt)
    (hbusy : r.busy = []) (hmain : ListName.main ∉ ids) :
    (resolveEach config ids).Ends r fun found r' =>
      Steady config r r' ∧ r.Resolves config ids (found.filterMap id) := by
  have hlists := @Task.ends_mapM Registry String (Option (String × Engine)) _
    (fun id => do pure ((← resolveList config id).toOption.map fun engine => (id, engine))) ids
    (Steady config r) (fun found => found.map fun entry => (entry.1, entry.2.lists))
    (fun name => (r.leafLists? config name).map fun lists => (name, lists)) r
    (.refl config r) (fun name hname a ha => ?_)
  · refine hlists.mono fun found a hfound => ⟨hfound.1, ?_⟩
    have hall := congrArg (List.filterMap id) hfound.2
    rw [List.filterMap_map, List.filterMap_map] at hall
    rw [Resolves, resolved, List.map_filterMap]
    exact hall
  · have hresolve := ends_resolveList config name (ha.prompt hprompt) (ha.busy.trans hbusy)
    refine Task.ends_bind (hresolve.mono fun result b hb => ?_)
    refine Task.ends_pure ⟨ha.trans hb.steady, ?_⟩
    have hne : name ≠ ListName.main := fun heq => hmain (heq ▸ hname)
    rw [← ha.leaf name hne, ← hb.lists, Option.map_map, Option.map_map]
    rfl

/-- What is built has the lists of the engines that could be had, and their names. -/
structure Assembled (found : List (String × Engine)) (built : Engine × List String) : Prop where
  lists : built.1.lists = (Engine.merge (found.map (·.2))).lists
  names : built.2 = found.map (·.1)

/-- An engine is built of the engines that could be had, whatever is known of them. -/
theorem ends_build {r : Registry} {config : Config} {ids : List String}
    {known : List (String × Engine) → Prop} (h : (resolveEach config ids).Ends r fun found r' =>
      Steady config r r' ∧ known (found.filterMap id)) (hbusy : r.busy = []) :
    (build config ids).Ends r fun built r' =>
      Steady config r r' ∧ ∃ found, known found ∧ Assembled found built := by
  refine Task.ends_bind (h.mono fun found a ha => ?_)
  refine Task.ends_bind ((ends_insert (ha.1.busy.trans hbusy) _ _).mono fun main b hb => ?_)
  exact Task.ends_pure ⟨ha.1.trans (hb.apart.steady config), _, ha.2, hb.lists, rfl⟩

/-- The digest of what a name comes to now, if it comes to anything. -/
def resolvedDigest? (m : MainEngine) (name : String) : Option UInt64 :=
  match ((resolveList m.bus.config name).run? m.registry).1 with
  | some (.ok engine) => some engine.digest
  | _ => none

/-- The lists of the published engine have the digests that their names come to. -/
def MatchesConfig (m : MainEngine) : Prop :=
  ∀ list ∈ m.published.engine.lists, m.resolvedDigest? list.name = some list.digest

instance : DecidablePred MatchesConfig := fun m =>
  inferInstanceAs (Decidable (∀ list ∈ m.published.engine.lists,
    m.resolvedDigest? list.name = some list.digest))

theorem resolvedDigest?_eq {m : MainEngine} (hprompt : m.registry.Prompt)
    (hbusy : m.registry.busy = []) (name : String) : m.resolvedDigest? name =
      (m.registry.leafLists? m.bus.config name).map Engine.digestOf := by
  obtain ⟨result, r', hrun, hresolved⟩ := ends_resolveList m.bus.config name hprompt hbusy
  rw [resolvedDigest?, hrun, ← hresolved.lists]
  cases result with
  | error cause => rfl
  | ok engine => exact congrArg some engine.digest_eq

/-- A main engine that nobody works on: no source keeps anybody waiting and no reload is running, as when
it was just made. -/
structure Fresh (m : MainEngine) : Prop where
  prompt : m.registry.Prompt
  busy : m.registry.busy = []
  running : m.running = false
  dirty : m.dirty = false
  generation : m.published.generation ≤ m.generation

/-- The engine is ready, for the same configuration and with every list as it was. -/
structure SetUp (m : MainEngine) (result : Reloading Unit) (m' : MainEngine) : Prop where
  result : result = .ended ()
  ready : m'.ready = true
  bus : m'.bus = m.bus
  steady : Steady m.bus.config m.registry m'.registry

/-- Every published list is one that a configured name comes to. -/
def IsBuilt (m m' : MainEngine) : Prop :=
  ∀ list ∈ m'.published.engine.lists, ∃ name ∈ ListName.enabled m.bus.config, ∃ lists,
    m.registry.leafLists? m.bus.config name = some lists ∧ list ∈ lists

/-- Lists at hand as the main engine, with the configured names. -/
structure IsRestorable (m : MainEngine) (lists : List FilterList) : Prop where
  found : m.registry.lists? ListName.main = some lists
  names : lists.map (·.name) = ListName.enabled m.bus.config

theorem ends_publish {α : Type} {new : Published} {rest : Task MainEngine α} {m : MainEngine}
    {post : α → MainEngine → Prop} (hnew : m.published.generation < new.generation)
    (h : rest.Ends { m with published := new } post) :
    (do
      Task.change (publish new)
      rest).Ends m post := by
  refine Task.ends_bind (Task.ends_change ?_)
  rw [publish, if_pos hnew]
  exact h

/-- The main engine after a reload. -/
def reloaded (m : MainEngine) (built : Engine × List String) (registry : Registry) : MainEngine :=
  { m with
    registry
    generation := m.generation + 1
    published :=
      { generation := m.generation + 1, version := m.bus.version, engine := built.1, ids := built.2 } }

/-- A reload that finds none running publishes what is built. -/
theorem ends_triggerThen {α : Type} {abandon : MainEngine → MainEngine}
    {rest : Reload → Task MainEngine α} {m : MainEngine} {post : Reloading α → MainEngine → Prop}
    {known : Engine × List String → Registry → Prop} (h : m.Fresh)
    (hbuild : (build m.bus.config (ListName.enabled m.bus.config)).Ends m.registry known)
    (hrest : ∀ built registry, known built registry →
      (rest (.published (m.generation + 1) built.2)).Ends (m.reloaded built registry)
        fun a m' => post (.ended a) m') : (triggerThen abandon rest).Ends m post := by
  have hgeneration := h.generation
  obtain ⟨registry, bus, published, ready, running, dirty, generation, updating⟩ := m
  obtain rfl : running = false := h.running
  obtain rfl : dirty = false := h.dirty
  refine Task.ends_bind (Task.ends_act ?_)
  rw [if_neg Bool.false_ne_true, if_neg Bool.false_ne_true]
  refine Task.ends_guarded (Task.ends_bind (Task.ends_guarded ?_))
  refine Task.ends_bind (Task.ends_read (Task.ends_bind (Task.ends_act ?_)))
  refine Task.ends_bind (ends_onRegistry (hbuild.mono fun built registry hbuilt => ?_))
  refine ends_publish (Nat.lt_succ_of_le hgeneration) (Task.ends_act ?_)
  dsimp only
  rw [if_neg Bool.false_ne_true]
  exact Task.ends_bind ((hrest built registry hbuilt).mono fun _ _ ha => Task.ends_pure ha)

theorem isBuilt_reloaded {m : MainEngine} {found : List (String × Engine)}
    {built : Engine × List String} {registry : Registry} (hbuilt : Assembled found built)
    (hfound : m.registry.Resolves m.bus.config (ListName.enabled m.bus.config) found) :
    IsBuilt m { m.reloaded built registry with ready := true } := by
  intro list hlist
  have hmerge : list ∈ (Engine.merge (found.map (·.2))).lists := hbuilt.lists ▸ hlist
  obtain ⟨engine, hengine, hmem⟩ := Engine.mem_lists_merge hmerge
  obtain ⟨entry, hentry, rfl⟩ := List.mem_map.1 hengine
  have hresolved : (entry.1, entry.2.lists) ∈
      m.registry.resolved m.bus.config (ListName.enabled m.bus.config) := by
    rw [← hfound]
    exact List.mem_map_of_mem hentry
  obtain ⟨name, hname, hlists⟩ := List.mem_filterMap.1 hresolved
  obtain ⟨lists, hleaf, heq⟩ := Option.map_eq_some_iff.1 hlists
  cases heq
  exact ⟨entry.1, hname, entry.2.lists, hleaf, hmem⟩

/-- A rebuilt engine has only lists that the configuration comes to. -/
theorem ends_rebuild {m : MainEngine} (h : m.Fresh) :
    (triggerThen id fun _ => becomeReady).Ends m fun result m' =>
      SetUp m result m' ∧ IsBuilt m m' := by
  have hresolved := ends_resolveEach m.bus.config h.prompt h.busy
    (ListName.main_not_mem_enabled m.bus.config)
  refine ends_triggerThen h (ends_build hresolved h.busy) fun built registry hbuilt => ?_
  obtain ⟨hsteady, found, hfound, hassembled⟩ := hbuilt
  exact Task.ends_change ⟨⟨rfl, rfl, rfl, hsteady⟩, isBuilt_reloaded hassembled hfound⟩

/-- Lists at hand with the configured names are taken as they are; without any the main engine is
built. -/
theorem ends_setup {m : MainEngine} (h : m.Fresh) : setup.Ends m fun result m' =>
    SetUp m result m' ∧
    ((∃ lists, m.IsRestorable lists ∧ m'.published.engine.lists = lists) ∨
      (∀ lists, ¬ m.IsRestorable lists) ∧ IsBuilt m m') := by
  refine Task.ends_bind (Task.ends_read (Task.ends_bind (ends_onRegistry ?_)))
  refine (ends_init h.prompt.bundled h.busy ListName.main).mono fun found registry hfound => ?_
  have hsteady := hfound.apart.steady m.bus.config
  -- looking for the main engine leaves it fresh, with every list as it was
  have hrebuild : (∀ lists, ¬ m.IsRestorable lists) →
      (triggerThen id fun _ => becomeReady).Ends { m with registry := registry } fun result m' =>
        SetUp m result m' ∧ ((∃ lists, m.IsRestorable lists ∧ m'.published.engine.lists = lists) ∨
          (∀ lists, ¬ m.IsRestorable lists) ∧ IsBuilt m m') := by
    intro hother
    have hfresh : Fresh { m with registry := registry } :=
      ⟨hsteady.prompt h.prompt, hsteady.busy.trans h.busy, h.running, h.dirty, h.generation⟩
    refine (ends_rebuild hfresh).mono fun result m' hm => ?_
    refine ⟨⟨hm.1.result, hm.1.ready, hm.1.bus, hsteady.trans hm.1.steady⟩, .inr ⟨hother, ?_⟩⟩
    intro list hlist
    obtain ⟨name, hname, lists, hlists, hmem⟩ := hm.2 list hlist
    have hne : name ≠ ListName.main := fun heq =>
      ListName.main_not_mem_enabled m.bus.config (heq ▸ hname)
    exact ⟨name, hname, lists, (hsteady.leaf name hne) ▸ hlists, hmem⟩
  have hlists := hfound.lists
  cases found with
  | none =>
    refine hrebuild fun lists hrestorable => ?_
    have hsome := hrestorable.found
    rw [← hlists] at hsome
    cases hsome
  | some engine =>
    dsimp only
    by_cases hnames : engine.listNames = ListName.enabled m.bus.config
    · rw [if_pos hnames]
      refine Task.ends_bind (Task.ends_act ?_)
      refine ends_publish (Nat.lt_succ_of_le h.generation) (Task.ends_bind (Task.ends_change ?_))
      refine Task.ends_pure ⟨⟨rfl, rfl, rfl, hsteady⟩, .inl ⟨engine.lists, ⟨hlists.symm, hnames⟩, rfl⟩⟩
    · rw [if_neg hnames]
      refine hrebuild fun lists hrestorable => hnames ?_
      have hsome := hrestorable.found
      rw [← hlists] at hsome
      cases hsome
      exact hrestorable.names

/-- What was built matches the configuration. -/
theorem digest_of_isBuilt {m m' : MainEngine} (hnamed : m.registry.LeavesNamed) (h : IsBuilt m m') :
    ∀ list ∈ m'.published.engine.lists, list.name ∈ ListName.enabled m.bus.config ∧
      (m.registry.leafLists? m.bus.config list.name).map Engine.digestOf = some list.digest := by
  intro list hlist
  obtain ⟨name, hname, lists, hlists, hmem⟩ := h list hlist
  have hne : name ≠ ListName.main := fun heq =>
    ListName.main_not_mem_enabled m.bus.config (heq ▸ hname)
  obtain ⟨only, rfl, rfl⟩ := hnamed.leafLists? hne hlists
  obtain rfl := List.mem_singleton.1 hmem
  refine ⟨hname, ?_⟩
  rw [hlists]
  rfl

/-- After it is set up the main engine matches the configuration exactly if each published list has
the digest that its name came to before. -/
theorem matchesConfig_iff_of_setUp {m m' : MainEngine} {result : Reloading Unit} (h : m.Fresh)
    (hsetup : SetUp m result m')
    (hnames : ∀ list ∈ m'.published.engine.lists, list.name ∈ ListName.enabled m.bus.config) :
    m'.MatchesConfig ↔ ∀ list ∈ m'.published.engine.lists,
      (m.registry.leafLists? m.bus.config list.name).map Engine.digestOf = some list.digest := by
  refine forall_congr' fun list => forall_congr' fun hlist => ?_
  have hne : list.name ≠ ListName.main := fun heq =>
    ListName.main_not_mem_enabled m.bus.config (heq ▸ hnames list hlist)
  rw [resolvedDigest?_eq (hsetup.steady.prompt h.prompt) (hsetup.steady.busy.trans h.busy),
    hsetup.bus, hsetup.steady.leaf list.name hne]

/-- Setting up a main engine publishes one that matches the configuration exactly when any lists at
hand with the configured names have the digests that these names come to. Only the names are compared,
so lists that were stored under another text, another trust or other picked elements are taken too. -/
theorem setup_matches_iff {m : MainEngine} (h : m.Fresh) (hnamed : m.registry.LeavesNamed) :
    ∃ m', setup.run? m = (some (.ended ()), m') ∧ m'.ready = true ∧
      (m'.MatchesConfig ↔ ∀ lists, m.IsRestorable lists → ∀ list ∈ lists,
        (m.registry.leafLists? m.bus.config list.name).map Engine.digestOf = some list.digest) := by
  obtain ⟨result, m', hrun, hsetup, hpublished⟩ := ends_setup h
  obtain rfl := hsetup.result
  refine ⟨m', hrun, hsetup.ready, ?_⟩
  rcases hpublished with ⟨lists, hrestorable, rfl⟩ | ⟨hnone, hbuilt⟩
  · have hnames : ∀ list ∈ m'.published.engine.lists, list.name ∈ ListName.enabled m.bus.config :=
      fun list hlist => hrestorable.names ▸ List.mem_map_of_mem hlist
    rw [matchesConfig_iff_of_setUp h hsetup hnames]
    refine ⟨fun hdigests lists hother => ?_, fun hdigests => hdigests _ hrestorable⟩
    obtain rfl := Option.some.inj (hother.found.symm.trans hrestorable.found)
    exact hdigests
  · have hdigests := digest_of_isBuilt hnamed hbuilt
    rw [matchesConfig_iff_of_setUp h hsetup fun list hlist => (hdigests list hlist).1]
    exact ⟨fun _ lists hrestorable => absurd hrestorable (hnone lists),
      fun _ list hlist => (hdigests list hlist).2⟩

/-- A configuration of custom filters alone. -/
def customOnly (text : String) : Config where
  blockAds := false
  blockTrackers := false
  customFilters := { enabled := true, text }

theorem setup_matches_iff_custom :
    ∃ m', setup.run? { registry := {}, bus := { config := customOnly "||example.com^" } } =
        (some (.ended ()), m') ∧ m'.ready = true ∧
      (m'.MatchesConfig ↔ ∀ lists,
        IsRestorable { registry := {}, bus := { config := customOnly "||example.com^" } } lists →
          ∀ list ∈ lists, (leafLists? {} (customOnly "||example.com^") list.name).map
            Engine.digestOf = some list.digest) :=
  setup_matches_iff ⟨⟨rfl, nofun⟩, rfl, rfl, rfl, Nat.le_refl 0⟩ fun _ _ _ => nofun

/-- The list of a custom text without filters. -/
def emptyCustom : FilterList := .ofFilters ListName.custom (CustomFilters.digestOf "" false) [] []

theorem readLists_emptyCustom :
    readLists (Snapshot.encode [emptyCustom.toListContent]) = some [emptyCustom] := by
  have hfits : ∀ content ∈ [emptyCustom.toListContent], content.Fits := by
    intro content hcontent
    rw [List.mem_singleton.1 hcontent]
    exact fun _ hfilter => nomatch hfilter
  rw [readLists, Snapshot.decode_encode hfits (by decide +kernel)]
  rfl

/-- A main engine that is started on what an earlier one without any text has stored. -/
def restarted (text : String) : MainEngine :=
  let earlier := (setup.run? { registry := {}, bus := { config := customOnly "" } }).2
  { registry := { store := earlier.registry.store }, bus := { config := customOnly text } }

theorem stored_restarted : ((restarted "||example.com^").registry.store.load
    ListName.main).toOption.join = some (Snapshot.encode [emptyCustom.toListContent]) := by
  with_unfolding_all rfl

theorem isRestorable_restarted : (restarted "||example.com^").IsRestorable [emptyCustom] := by
  have hcache : (restarted "||example.com^").registry.cache.get? ListName.main = none := rfl
  refine ⟨?_, rfl⟩
  rw [lists?, stored_restarted, hcache, Option.map_none, Option.none_or, Option.bind_some,
    readLists_emptyCustom, Option.some_or]

/-- A text that was given while the engine was down is not compiled. -/
theorem not_matchesConfig_after_restart :
    (setup.run? (restarted "||example.com^")).2.ready = true ∧
      ¬ (setup.run? (restarted "||example.com^")).2.MatchesConfig := by
  have hfresh : (restarted "||example.com^").Fresh := ⟨⟨rfl, nofun⟩, rfl, rfl, rfl, Nat.le_refl 0⟩
  have hrestorable := isRestorable_restarted
  obtain ⟨result, m, hrun, hsetup, hpublished⟩ := ends_setup hfresh
  rw [hrun]
  refine ⟨hsetup.ready, ?_⟩
  rcases hpublished with ⟨lists, hother, hlists⟩ | ⟨hnone, -⟩
  · obtain rfl := Option.some.inj (hother.found.symm.trans hrestorable.found)
    have hnames : ∀ list ∈ m.published.engine.lists,
        list.name ∈ ListName.enabled (restarted "||example.com^").bus.config := by
      rw [hlists, ← hrestorable.names]
      exact fun list hlist => List.mem_map_of_mem hlist
    rw [matchesConfig_iff_of_setUp hfresh hsetup hnames, hlists]
    intro hdigests
    have hdigest := hdigests emptyCustom List.mem_cons_self
    have hown : ownText (restarted "||example.com^").bus.config emptyCustom.name =
        some "||example.com^" := rfl
    rw [digestOf_leafLists? hown] at hdigest
    exact absurd (Option.some.inj hdigest) (by decide +kernel)
  · exact absurd hrestorable (hnone [emptyCustom])

end MainEngine

end ContentFilter
