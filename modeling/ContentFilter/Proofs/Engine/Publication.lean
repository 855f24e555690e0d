import ContentFilter.Proofs.Engine.Setup
import Mathlib.Data.List.Perm.Subperm

/-! What a reload publishes: the configured lists that can be had, in their order. The list of the
user's filters is the one that their text is compiled to now, whatever was cached or stored before,
unless somebody put another list of the same digest in its place. -/

namespace ContentFilter

namespace Engine

/-- The engine has just these lists, in this order; one that stands there several times it may have
once. -/
structure Assembles (engine : Engine) (lists : List FilterList) : Prop where
  ordered : engine.lists.Sublist lists
  complete : lists ⊆ engine.lists

/-- Without repetitions it has them as they are. -/
theorem Assembles.lists_eq {engine : Engine} {lists : List FilterList} (h : engine.Assembles lists)
    (hnodup : lists.Nodup) : engine.lists = lists :=
  h.ordered.eq_of_length_le (hnodup.subperm h.complete).length_le

/-- A merge loses no list, as members of one origin are one list. -/
theorem assembles_merge {made : Origins} {engines : List Engine}
    (h : ∀ engine ∈ engines, made.Has engine) :
    (merge engines).Assembles (engines.flatMap (·.lists)) := by
  have hlists : engines.flatMap (·.lists) = (engines.flatMap (·.members)).map (·.list) :=
    List.map_flatMap.symm
  have hmade : ∀ member ∈ engines.flatMap (·.members),
      made.lists[member.origin]? = some member.list := by
    intro member hmember
    obtain ⟨engine, hengine, hmember⟩ := List.mem_flatMap.1 hmember
    exact h engine hengine member hmember
  rw [hlists]
  refine ⟨(distinctBy_sublist _ _).map _, fun list hlist => ?_⟩
  obtain ⟨member, hmember, rfl⟩ := List.mem_map.1 hlist
  have hfound : ((engines.flatMap (·.members)).find? (·.origin == member.origin)).isSome :=
    List.find?_isSome.2 ⟨member, hmember, beq_self_eq_true _⟩
  rw [← find?_distinctBy] at hfound
  obtain ⟨first, hfirst⟩ := Option.isSome_iff_exists.1 hfound
  have hmem := List.mem_of_find?_eq_some hfirst
  have horigin : first.origin = member.origin := by simpa using List.find?_some hfirst
  have hsame : first.list = member.list := by
    have hfirstMade := hmade first ((distinctBy_sublist _ _).subset hmem)
    rw [horigin, hmade member hmember] at hfirstMade
    exact (Option.some.inj hfirstMade).symm
  exact hsame ▸ List.mem_map_of_mem hmem

end Engine

namespace Registry

/-- Lists under the name of the user's filters that have the digest of the text in effect are what this
text is compiled to under the trust in effect. -/
def Faithful (config : Config) (name : String) (lists : List FilterList) : Prop :=
  name = ListName.custom → ∀ text, config.effectiveCustomFilters = some text →
    Engine.digestOf lists = CustomFilters.digestOf text config.customFilters.trustedScriptlets →
      lists = (CustomFilters.compile 0 text config.customFilters.trustedScriptlets).2.lists

/-- Filters of the two configurations have different digests unless text and trust are the same. -/
def TellsApart (config other : Config) : Prop :=
  ∀ text text', config.effectiveCustomFilters = some text → other.effectiveCustomFilters = some text' →
    CustomFilters.digestOf text' other.customFilters.trustedScriptlets =
        CustomFilters.digestOf text config.customFilters.trustedScriptlets →
      text' = text ∧ other.customFilters.trustedScriptlets = config.customFilters.trustedScriptlets

/-- No source has a snapshot for the user's filters, nor a text with their digest that comes to another
list. -/
structure SparesCustom (config : Config) (bundled : FileSource) (remote : Option FileSource) : Prop where
  snapshot : ∀ data, bundled.bytes (FileSource.snapshotFile ListName.custom) ≠ .ok data
  texts : ∀ text, bundled.text (FileSource.listFile ListName.custom) = .ok text →
    Faithful config ListName.custom [(FilterList.parse ListName.custom text).1]
  remote : ∀ source, remote = some source → ∀ text,
    source.text (FileSource.listFile ListName.custom) = .ok text →
      Faithful config ListName.custom [(FilterList.parse ListName.custom text).1]

/-- Work that puts nothing under the name of the user's filters in the disguise of those in effect. -/
def Work.Spares (config : Config) : Work → Prop
  | create name text => Faithful config name [(FilterList.parse name text).1]
  | insert name contents => name ≠ ListName.custom ∨
    Faithful config name (contents.map .ofContent) ∧ ∀ content ∈ contents, content.WellFormed
  | replace name _ => name ≠ ListName.custom
  | applyCustomFilters other | build other => TellsApart config other
  | supply bundled remote _ => SparesCustom config bundled remote
  | init _ | update _ | remove _ | resolve _ | updateLists _ => True

variable {config : Config}

theorem faithful_of_ne {name : String} (h : name ≠ ListName.custom) (lists : List FilterList) :
    Faithful config name lists := fun heq => absurd heq h

theorem TellsApart.mayOwn {other : Config} (h : TellsApart config other) :
    MayOwn (Faithful config) other := by
  rintro name text' hown rfl text htext hdigest
  obtain ⟨rfl, htrust⟩ := h text text' htext hown hdigest
  rw [← htrust]
  rfl

theorem SparesCustom.supplied {bundled : FileSource} {remote : Option FileSource}
    (h : SparesCustom config bundled remote) : Supplied (Faithful config) bundled remote := by
  refine ⟨fun name data hdata lists _ hname => ?_, fun name text htext hname => ?_,
    fun source hsource name text htext hname => ?_⟩
  · subst hname
    exact absurd hdata (h.snapshot data)
  · subst hname
    exact h.texts text htext rfl
  · subst hname
    exact h.remote source hsource text htext rfl

theorem Work.Spares.puts {work : Work} (h : work.Spares config) : work.Puts (Faithful config) := by
  cases work with
  | init | update | remove | resolve | updateLists => trivial
  | create name text => exact h
  | insert name contents => exact Or.imp_left faithful_of_ne h
  | replace name names => exact faithful_of_ne h
  | applyCustomFilters other => exact TellsApart.mayOwn h
  | build other => exact ⟨TellsApart.mayOwn h, faithful_of_ne (by decide)⟩
  | supply bundled remote fails => exact SparesCustom.supplied h

/-- A name of the configuration's own comes to what its text is compiled to, if no other lists of the same
digest are upheld under it. -/
theorem Upkept.leafLists?_own {P : String → List FilterList → Prop} {made : Origins} {r : Registry}
    {name text : String} (h : Upkept P made r) (hown : MainEngine.ownText config name = some text)
    (hsame : ∀ lists, P name lists → Engine.digestOf lists = MainEngine.ownDigest config name text →
      lists = [MainEngine.ownList config name text]) :
    r.leafLists? config name = some [MainEngine.ownList config name text] := by
  rw [leafLists?, hown]
  dsimp only
  rw [MainEngine.compileOwn_eq]
  cases hfound : (r.lists? name).filter fun lists =>
      Engine.digestOf lists == MainEngine.ownDigest config name text with
  | none => rfl
  | some lists =>
    obtain ⟨hlists, hdigest⟩ := Option.filter_eq_some_iff.1 hfound
    rw [Option.some_or, hsame lists (h.lists hlists) (eq_of_beq hdigest)]

/-- The user's filters come to what their text is compiled to. -/
theorem Run.leafLists?_custom {r : Registry} {text : String}
    (h : Run (Work.Spares config) (SparesCustom config) r)
    (htext : config.effectiveCustomFilters = some text) :
    r.leafLists? config ListName.custom =
      some (CustomFilters.compile 0 text config.customFilters.trustedScriptlets).2.lists := by
  obtain ⟨made, hmade⟩ := h.upkept (fun _ => Work.Spares.puts) fun _ _ => SparesCustom.supplied
  have howned : MainEngine.ownDigest config ListName.custom text =
      CustomFilters.digestOf text config.customFilters.trustedScriptlets :=
    if_pos (beq_self_eq_true _)
  have hlist : MainEngine.ownList config ListName.custom text =
      CustomFilters.listOf text config.customFilters.trustedScriptlets :=
    if_pos (beq_self_eq_true _)
  have hown : MainEngine.ownText config ListName.custom = some text := htext
  rw [hmade.leafLists?_own hown fun lists hlists hdigest => ?_, hlist]
  · rfl
  · rw [hlist]
    exact hlists rfl text htext (hdigest.trans howned)

/-- Whatever is put under its names, a registry has one list for each origin. -/
theorem Run.upkept_any {fits : Work → Prop} {supplies : FileSource → Option FileSource → Prop}
    {r : Registry} (h : Run fits supplies r) : ∃ made, Upkept (fun _ _ => True) made r := by
  refine h.upkept (fun work _ => ?_) fun _ _ _ =>
    ⟨fun _ _ _ _ _ => trivial, fun _ _ _ => trivial, fun _ _ _ _ _ => trivial⟩
  cases work with
  | init | update | remove | resolve | updateLists | create => trivial
  | insert name contents => exact .inl fun _ => trivial
  | replace name names => exact fun _ => trivial
  | applyCustomFilters other => exact fun _ _ _ => trivial
  | build other => exact ⟨fun _ _ _ => trivial, fun _ => trivial⟩
  | supply bundled remote fails =>
    exact ⟨fun _ _ _ _ _ => trivial, fun _ _ _ => trivial, fun _ _ _ _ _ => trivial⟩

end Registry

namespace MainEngine

open Registry

/-- The lists that a main engine would be put together of now, by the names they stand under. -/
def toPublish (m : MainEngine) : List (String × List FilterList) :=
  m.registry.resolved m.bus.config (ListName.enabled m.bus.config)

theorem toPublish_singleton {m : MainEngine} {name : String} {lists : List FilterList}
    (hname : ListName.enabled m.bus.config = [name])
    (hlists : m.registry.leafLists? m.bus.config name = some lists) : m.toPublish = [(name, lists)] := by
  rw [toPublish, resolved, hname, List.filterMap_cons, hlists]
  rfl

/-- A name that comes to nothing is left out, and no other. -/
theorem names_toPublish (m : MainEngine) : m.toPublish.map (·.1) =
    (ListName.enabled m.bus.config).filter fun name =>
      (m.registry.leafLists? m.bus.config name).isSome := by
  rw [toPublish, resolved]
  induction ListName.enabled m.bus.config with
  | nil => rfl
  | cons name names ih =>
    rw [List.filterMap_cons, List.filter_cons]
    cases m.registry.leafLists? m.bus.config name with
    | none => exact ih
    | some lists => exact congrArg (name :: ·) ih

/-- Engines of these lists, each of which was made once. -/
structure CanPublish (m : MainEngine) (found : List (String × Engine)) : Prop where
  resolves : m.registry.Resolves m.bus.config (ListName.enabled m.bus.config) found
  made : ∃ made : Origins, ∀ entry ∈ found, made.Has entry.2

/-- A reload that runs alone publishes the configured lists that can be had. -/
theorem ends_reload {m : MainEngine} {fits : Work → Prop}
    {supplies : FileSource → Option FileSource → Prop} (h : m.Fresh)
    (hrun : Run fits supplies m.registry) : reload.Ends m fun result m' =>
      result = .ended (.published (m.generation + 1) (m.toPublish.map (·.1))) ∧
      m'.published.ids = m.toPublish.map (·.1) ∧
      m'.published.engine.Assembles (m.toPublish.flatMap (·.2)) := by
  obtain ⟨made, hmade⟩ := hrun.upkept_any
  have hresolved := ends_resolveEach m.bus.config h.prompt h.busy
    (ListName.main_not_mem_enabled m.bus.config)
  have hkeeps := @keeps_resolveEach (fun _ _ => True) made m.bus.config (fun _ _ _ => trivial)
    (ListName.enabled m.bus.config)
  -- an engine that was had is of lists that were made
  have hknown : (resolveEach m.bus.config (ListName.enabled m.bus.config)).Ends m.registry
      fun found r' => Steady m.bus.config m.registry r' ∧ m.CanPublish (found.filterMap id) := by
    refine (hresolved.and_keeps hkeeps hmade).mono fun found r' hfound => ?_
    obtain ⟨⟨hsteady, hfound⟩, made', -, -, hhas⟩ := hfound
    refine ⟨hsteady, hfound, made', fun entry hentry => ?_⟩
    exact hhas (some entry) (by simpa using hentry) entry.2 rfl
  refine ends_triggerThen h (ends_build hknown h.busy) fun built registry hbuilt => ?_
  obtain ⟨-, found, ⟨hfound, made', hhas⟩, hassembled⟩ := hbuilt
  have hids : found.map (·.1) = m.toPublish.map (·.1) := by
    rw [toPublish, ← hfound, List.map_map]
    rfl
  have hlists : (found.map (·.2)).flatMap (·.lists) = m.toPublish.flatMap (·.2) := by
    rw [toPublish, ← hfound, List.flatMap_map, List.flatMap_map]
  have hmerge := Engine.assembles_merge (List.forall_mem_map.2 hhas)
  rw [hlists] at hmerge
  refine Task.ends_pure ⟨?_, hassembled.names.trans hids, ?_⟩
  · rw [hassembled.names, hids]
  · exact ⟨hassembled.lists ▸ hmerge.ordered, hassembled.lists ▸ hmerge.complete⟩

theorem mem_toPublish {m : MainEngine} {name : String} {lists : List FilterList}
    (hname : name ∈ ListName.enabled m.bus.config)
    (hlists : m.registry.leafLists? m.bus.config name = some lists) : (name, lists) ∈ m.toPublish :=
  List.mem_filterMap.2 ⟨name, hname, by rw [hlists]; rfl⟩

theorem map_name_flatMap {entries : List (String × List FilterList)}
    (h : ∀ entry ∈ entries, IsLeaf entry.1 entry.2) :
    (entries.flatMap (·.2)).map (·.name) = entries.map (·.1) := by
  induction entries with
  | nil => rfl
  | cons entry entries ih =>
    obtain ⟨hentry, hentries⟩ := List.forall_mem_cons.1 h
    obtain ⟨list, hlists, hname⟩ := hentry
    rw [List.flatMap_cons, List.map_append, ih hentries, hlists, List.map_cons, hname]
    rfl

/-- With one list of its name under each name, no list stands under two names. -/
theorem nodup_toPublish {m : MainEngine} (h : m.registry.LeavesNamed) :
    (m.toPublish.flatMap (·.2)).Nodup := by
  have hleaf : ∀ entry ∈ m.toPublish, IsLeaf entry.1 entry.2 := by
    intro entry hentry
    obtain ⟨name, hname, hsome⟩ := List.mem_filterMap.1 hentry
    obtain ⟨lists, hlists, rfl⟩ := Option.map_eq_some_iff.1 hsome
    have hne : name ≠ ListName.main := fun heq =>
      ListName.main_not_mem_enabled m.bus.config (heq ▸ hname)
    exact h.leafLists? hne hlists
  refine List.Nodup.of_map (·.name) ?_
  rw [map_name_flatMap hleaf, names_toPublish]
  exact (ListName.enabled_nodup m.bus.config).filter _

/-- A reload publishes, in the order of the configuration, the lists of just those names that come to
any, and as the list of the user's filters the one that their text is compiled to under the trust of now,
whatever was cached or stored before. Without trust it answers no page with a restricted scriptlet. -/
theorem reload_publishes {m : MainEngine} (h : m.Fresh)
    (hrun : Run (Work.Spares m.bus.config) (SparesCustom m.bus.config) m.registry) :
    ∃ m', reload.run? m = (some (.ended (.published (m.generation + 1) m'.published.ids)), m') ∧
      m'.published.ids = (ListName.enabled m.bus.config).filter (fun name =>
        (m.registry.leafLists? m.bus.config name).isSome) ∧
      m'.published.engine.Assembles (m.toPublish.flatMap (·.2)) ∧
      (m.registry.LeavesNamed → m'.published.engine.lists = m.toPublish.flatMap (·.2)) ∧
      ∀ text, m.bus.config.effectiveCustomFilters = some text →
        let trusted := m.bus.config.customFilters.trustedScriptlets
        let made := (CustomFilters.compile 0 text trusted).2.lists
        (ListName.custom, made) ∈ m.toPublish ∧ (trusted = false → ∀ list ∈ made, list.IsHarmless) := by
  obtain ⟨result, m', hreload, rfl, hids, hassembles⟩ := ends_reload h hrun
  rw [← hids] at hreload
  rw [names_toPublish] at hids
  refine ⟨m', hreload, hids, hassembles, fun hnamed => ?_, fun text htext => ⟨?_, fun htrust => ?_⟩⟩
  · exact hassembles.lists_eq (nodup_toPublish hnamed)
  · refine mem_toPublish ?_ (hrun.leafLists?_custom htext)
    simp [ListName.enabled, htext]
  · rw [htrust]
    exact List.forall_mem_singleton.2 (CustomFilters.isHarmless_listOf text)

/-- A filter that only trusted text may have. -/
def cookieFilter : CosmeticFilter where
  raw := "example.com##+js(trusted-set-cookie, a, b)"
  hostnames := ["example.com"]
  notHostnames := []
  unhide := false
  kind := .scriptlet ⟨"trusted-set-cookie", ["a", "b"]⟩
  selector := ""

/-- Trusted custom filters alone. -/
def customTrusted (text : String) : Config :=
  { customOnly text with customFilters := { enabled := true, trustedScriptlets := true, text } }

/-- A main engine that is started on what an earlier run has stored while the same text was trusted. -/
def distrusting : MainEngine where
  registry := opened ((Registry.applyCustomFilters (customTrusted cookieFilter.raw)).run? {}).2.store {}
    none
  bus := { config := customOnly cookieFilter.raw }

theorem reload_publishes_distrusting :
    distrusting.Fresh ∧ Run (Work.Spares distrusting.bus.config) (SparesCustom distrusting.bus.config)
        distrusting.registry ∧
      ∃ m', reload.run? distrusting = (some (.ended (.published 1 [ListName.custom])), m') ∧
        m'.published.engine.Assembles (CustomFilters.compile 0 cookieFilter.raw false).2.lists ∧
        ∀ list ∈ (CustomFilters.compile 0 cookieFilter.raw false).2.lists, list.IsHarmless := by
  have hfresh : distrusting.Fresh := ⟨⟨rfl, nofun⟩, rfl, rfl, rfl, Nat.le_refl 0⟩
  have hnone : SparesCustom distrusting.bus.config {} none := ⟨nofun, nofun, nofun⟩
  have hapart : TellsApart distrusting.bus.config (customTrusted cookieFilter.raw) := by
    intro text text' htext htext' hdigest
    cases htext
    cases htext'
    exact absurd hdigest (CustomFilters.digestOf_true_ne cookieFilter.raw)
  have hrun : Run (Work.Spares distrusting.bus.config) (SparesCustom distrusting.bus.config)
      distrusting.registry := by
    have hfirst : Run (Work.Spares distrusting.bus.config) (SparesCustom distrusting.bus.config)
        (opened {} {} none) := .first nofun hnone
    have happlied : (Registry.applyCustomFilters (customTrusted cookieFilter.raw)).Ends {}
        fun _ _ => True :=
      Task.ends_bind (ends_freshOrigin (Task.ends_bind ((ends_insert rfl _ _).mono fun _ _ _ =>
        Task.ends_pure trivial)))
    obtain ⟨result, r, happlied, -⟩ := happlied
    have hwork : (Work.applyCustomFilters (customTrusted cookieFilter.raw)).task.run? {} =
        (some (), r) := Task.run?_bind happlied fun _ => pure ()
    have hregistry : distrusting.registry = opened r.store {} none := by rw [distrusting, happlied]
    have hspares : Work.Spares distrusting.bus.config
        (.applyCustomFilters (customTrusted cookieFilter.raw)) := hapart
    rw [hregistry]
    exact (hfirst.alone hspares hwork).again (fun _ _ => .inl) hnone
  have htrust : distrusting.bus.config.customFilters.trustedScriptlets = false := rfl
  have hleaf := @Run.leafLists?_custom _ _ cookieFilter.raw hrun rfl
  rw [htrust] at hleaf
  have hpublish := toPublish_singleton rfl hleaf
  obtain ⟨m', hreload, hids, hassembles, -, hcustom⟩ := reload_publishes hfresh hrun
  rw [← names_toPublish, hpublish] at hids
  rw [hids] at hreload
  rw [hpublish] at hassembles
  have hharmless := (hcustom cookieFilter.raw rfl).2 htrust
  rw [htrust] at hharmless
  refine ⟨hfresh, hrun, m', hreload, ?_, hharmless⟩
  rwa [List.flatMap_cons, List.flatMap_nil, List.append_nil] at hassembles

/-- The list that its text is compiled to when nobody looks for restricted scriptlets. -/
def cookieList : FilterList := (FilterList.parse ListName.custom cookieFilter.raw).1

theorem cosmetic_cookieList : cookieList.cosmetic = [cookieFilter] := by decide +kernel

theorem collectCosmetics_cookie {list : FilterList} (h : list.cosmetic = [cookieFilter]) :
    list.collectCosmetics none (.bootstrap "https://example.com/") = .ok [cookieFilter] := by
  have hindex : list.cosmeticIndex =
      { byHost := (⟨∅⟩ : Buckets PlacedFilter).add "example.com" ⟨0, cookieFilter⟩ } := by
    rw [list.cosmeticIndex_eq, h]
    rfl
  have hhost : (CosmeticQuery.bootstrap "https://example.com/").hostname = "example.com" := by
    decide +kernel
  have hkeys : CosmeticIndex.hostKeys none "example.com".toList =
      .ok ["example.com".toList, "com".toList, "example.*".toList] := by rfl
  have happlies : cookieFilter.appliesTo none "example.com".toList = .ok true := by rfl
  have hlookup : CosmeticIndex.lookup none list.cosmeticIndex
      (.bootstrap "https://example.com/") = .ok [⟨0, cookieFilter⟩] := by
    rw [hindex, CosmeticIndex.lookup, hhost, hkeys]
    refine congrArg Except.ok ?_
    simp [CosmeticQuery.bootstrap, CosmeticQuery.ofUrl, distinctBy, distinctFrom]
  have hfilters : [cookieFilter].filterM (fun filter => filter.appliesTo none "example.com".toList) =
      .ok ([cookieFilter].filter fun _ => true) :=
    filterM_ok fun filter hfilter => List.mem_singleton.1 hfilter ▸ happlies
  rw [FilterList.collectCosmetics, hlookup, hhost]
  exact hfilters

theorem collect_cookieList : cookieList.collectCosmetics none (.bootstrap "https://example.com/") =
    .ok [cookieFilter] :=
  collectCosmetics_cookie cosmetic_cookieList

/-- A main engine over a registry in which the text of a filter is compiled under the name of the
user's filters, while the same text is configured without trust. -/
def disguised : MainEngine where
  registry := ((Registry.create ListName.custom cookieFilter.raw).run? {}).2
  bus := { config := customOnly cookieFilter.raw }

/-- A list that is compiled under the name of the user's filters has the digest of their text, so it is
taken for them and answers with what only trusted text may run. -/
theorem disguised_answers_restricted :
    disguised.Fresh ∧ Run (fun _ => True) (fun _ _ => True) disguised.registry ∧
      ∃ m', reload.run? disguised = (some (.ended (.published 1 [ListName.custom])), m') ∧
        m'.published.engine.lists = [cookieList] ∧
        [cookieList] ≠ (CustomFilters.compile 0 cookieFilter.raw false).2.lists ∧
        ¬ cookieList.IsHarmless := by
  have hcreate : (Registry.create ListName.custom cookieFilter.raw).Ends {}
      (Kept ListName.custom [cookieList] {}) :=
    ends_exclusively rfl ((ends_compileAndKeep _ _ _).mono fun _ _ h => ⟨h.apart, h.freed rfl⟩)
  obtain ⟨engine, r, hcreated, hkept⟩ := hcreate
  have hregistry : disguised.registry = r := by rw [disguised, hcreated]
  have hfresh : disguised.Fresh := ⟨⟨rfl, nofun⟩, rfl, rfl, rfl, Nat.le_refl 0⟩
  have hrun : Run (fun _ => True) (fun _ _ => True) disguised.registry := by
    have hfirst : Run (fun _ => True) (fun _ _ => True) (opened {} {} none) := .first nofun trivial
    have hcreate : (Work.create ListName.custom cookieFilter.raw).task.run? {} = (some (), r) :=
      Task.run?_bind hcreated fun _ => pure ()
    rw [hregistry]
    exact hfirst.alone trivial hcreate
  have hleaf : disguised.registry.leafLists? disguised.bus.config ListName.custom =
      some [cookieList] := by
    have hlists : engine.lists = [cookieList] := hkept.lists
    have hdigest : engine.digest =
        ownDigest (customOnly cookieFilter.raw) ListName.custom cookieFilter.raw := by
      rw [Engine.digest_eq, hlists, ownDigest, if_pos (beq_self_eq_true _)]
      rfl
    rw [hregistry, ← hlists]
    exact leafLists?_of_made rfl (lists?_of_cached hkept.cached) hdigest
  have hpublish := toPublish_singleton rfl hleaf
  obtain ⟨result, m', hreload, rfl, -, hassembles⟩ := ends_reload hfresh hrun
  rw [hpublish] at hreload hassembles
  refine ⟨hfresh, hrun, m', hreload, hassembles.lists_eq (List.nodup_singleton _), ?_, ?_⟩
  · intro hsame
    have hlist : cookieList = CustomFilters.listOf cookieFilter.raw false :=
      (List.cons.inj hsame).1
    have hcosmetic := cosmetic_cookieList
    rw [hlist] at hcosmetic
    have hnone : (CustomFilters.listOf cookieFilter.raw false).cosmetic = [] := by decide +kernel
    rw [hnone] at hcosmetic
    cases hcosmetic
  · intro hharmless
    have hcall := (hharmless none _ _ collect_cookieList cookieFilter List.mem_cons_self _ rfl).1
    exact absurd hcall (by decide)

end MainEngine

end ContentFilter
