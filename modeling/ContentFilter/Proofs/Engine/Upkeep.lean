import ContentFilter.Proofs.Engine.Custom
import ContentFilter.Proofs.Engine.Registry
import ContentFilter.Proofs.Interleaving

/-! What a registry has under its names, whatever its tasks do and however often it is started on what
was stored before. A condition on the lists under a name is upheld if nothing else is put there, and
each origin belongs to one list. -/

namespace ContentFilter

/-- All lists that were made so far; the place of a list is its origin. -/
structure Origins where
  lists : List FilterList

namespace Origins

/-- What was made is never forgotten. -/
instance : Preorder Origins where
  le made made' := made.lists <+: made'.lists
  le_refl _ := List.prefix_rfl
  le_trans _ _ _ h h' := h.trans h'

def add (made : Origins) (lists : List FilterList) : Origins := ⟨made.lists ++ lists⟩

theorem le_add (made : Origins) (lists : List FilterList) : made ≤ made.add lists :=
  List.prefix_append _ _

/-- Each list of the engine was made with its origin. -/
def Has (made : Origins) (engine : Engine) : Prop :=
  ∀ member ∈ engine.members, made.lists[member.origin]? = some member.list

variable {made made' : Origins}

theorem Has.mono {engine : Engine} (hle : made ≤ made') (h : made.Has engine) : made'.Has engine := by
  intro member hmember
  obtain ⟨rest, hrest⟩ := hle
  have hfound := h member hmember
  have hlt : member.origin < made.lists.length := by
    by_contra hge
    rw [List.getElem?_eq_none (Nat.le_of_not_lt hge)] at hfound
    cases hfound
  rw [← hrest, List.getElem?_append_left hlt, hfound]

/-- An engine that was had, if one was, is of lists that were made. -/
def HasAll (made : Origins) (found : Option Engine) : Prop := ∀ engine ∈ found, made.Has engine

theorem HasAll.mono {found : Option Engine} (hle : made ≤ made') (h : made.HasAll found) :
    made'.HasAll found := fun engine hengine => (h engine hengine).mono hle

theorem has_ofContents (made : Origins) (contents : List ListContent) :
    (made.add (contents.map .ofContent)).Has (Engine.ofContents made.lists.length contents) := by
  intro member hmember
  obtain ⟨⟨content, i⟩, hentry, rfl⟩ := List.mem_map.1 hmember
  have hcontent : contents[i]? = some content := List.mem_zipIdx_iff_getElem?.1 hentry
  dsimp only [add]
  rw [List.getElem?_append_right (Nat.le_add_right _ i), Nat.add_sub_cancel_left, List.getElem?_map,
    hcontent]
  rfl

theorem has_merge {engines : List Engine} (h : ∀ engine ∈ engines, made.Has engine) :
    made.Has (Engine.merge engines) := by
  intro member hmember
  have hmem := (distinctBy_sublist _ _).subset hmember
  obtain ⟨engine, hengine, hmember⟩ := List.mem_flatMap.1 hmem
  exact h engine hengine member hmember

end Origins

namespace Registry

/-- A snapshot whose lists are such, as far as it can be read. -/
def Holds (P : String → List FilterList → Prop) (name : String) (data : List UInt8) : Prop :=
  ∀ lists, readLists data = some lists → P name lists

/-- An engine that may be put under a name: its lists are such and stay so in a snapshot, or any are. -/
def MayPut (P : String → List FilterList → Prop) (name : String) (engine : Engine) : Prop :=
  (∀ lists, P name lists) ∨
    P name engine.lists ∧ ∀ list ∈ engine.lists, list.toListContent.WellFormed

/-- What a configuration has compiled of its own is such. -/
def MayOwn (P : String → List FilterList → Prop) (config : Config) : Prop :=
  ∀ name text, MainEngine.ownText config name = some text →
    P name [MainEngine.ownList config name text]

/-- What the sources have for a name is such. -/
structure Supplied (P : String → List FilterList → Prop) (bundled : FileSource)
    (remote : Option FileSource) : Prop where
  snapshots : ∀ name data, bundled.bytes (FileSource.snapshotFile name) = .ok data → Holds P name data
  texts : ∀ name text, bundled.text (FileSource.listFile name) = .ok text →
    P name [(FilterList.parse name text).1]
  remote : ∀ source, remote = some source → ∀ name text,
    source.text (FileSource.listFile name) = .ok text → P name [(FilterList.parse name text).1]

/-- What is cached, stored and supplied under a name is such, and the lists in the cache are among those
that were made. -/
structure Upkept (P : String → List FilterList → Prop) (made : Origins) (r : Registry) : Prop where
  fresh : r.fresh = made.lists.length
  made : ∀ name engine, r.cache.get? name = some engine → made.Has engine
  cached : ∀ name engine, r.cache.get? name = some engine → P name engine.lists
  stored : ∀ name data, r.store.snapshots.get? name = some data → Holds P name data
  supplied : Supplied P r.bundled r.remote

variable {P : String → List FilterList → Prop} {made made' : Origins} {r : Registry}

theorem stored_of_load {name : String} {data : List UInt8}
    (h : (r.store.load name).toOption.join = some data) : r.store.snapshots.get? name = some data := by
  rw [SnapshotStore.load] at h
  split at h
  · cases h
  · exact h

/-- All lists at hand under a name are such. -/
theorem Upkept.lists {name : String} {lists : List FilterList} (h : Upkept P made r)
    (hlists : r.lists? name = some lists) : P name lists := by
  rcases Option.or_eq_some_iff.1 hlists with hcached | ⟨-, hlists⟩
  · obtain ⟨engine, hengine, rfl⟩ := Option.map_eq_some_iff.1 hcached
    exact h.cached name engine hengine
  rcases Option.or_eq_some_iff.1 hlists with hstored | ⟨-, hshipped⟩
  · obtain ⟨data, hdata, hread⟩ := Option.bind_eq_some_iff.1 hstored
    exact h.stored name data (stored_of_load hdata) lists hread
  · obtain ⟨data, hdata, hread⟩ := Option.bind_eq_some_iff.1 hshipped
    exact h.supplied.snapshots name data (ok_of_toOption hdata) lists hread

theorem MayPut.lists {name : String} {engine : Engine} (h : MayPut P name engine) :
    P name engine.lists := by
  rcases h with hany | ⟨hput, -⟩
  · exact hany _
  · exact hput

theorem mayPut_ofList {name : String} {list : FilterList} (origin : Nat) (h : P name [list])
    (hwell : list.toListContent.WellFormed) : MayPut P name (.ofList origin list) :=
  .inr ⟨h, List.forall_mem_singleton.2 hwell⟩

theorem holds_serialize {name : String} {engine : Engine} (h : MayPut P name engine) :
    Holds P name engine.serialize := by
  intro lists hread
  rcases h with hany | ⟨hput, hwell⟩
  · exact hany lists
  obtain ⟨contents, hcontents, rfl⟩ := Option.map_eq_some_iff.1 hread
  have hfits : ∀ content ∈ engine.lists.map (·.toListContent), content.Fits :=
    List.forall_mem_map.2 fun list hlist => (hwell list hlist).fits
  rw [Snapshot.eq_of_decode_encode hfits (ok_of_toOption hcontents),
    FilterList.map_ofContent_toListContent]
  exact hput

namespace Upkept

theorem add (h : Upkept P made r) (lists : List FilterList) :
    Upkept P (made.add lists) { r with fresh := r.fresh + lists.length } where
  fresh := by simp [Origins.add, h.fresh]
  made name engine hengine := (h.made name engine hengine).mono (made.le_add lists)
  cached := h.cached
  stored := h.stored
  supplied := h.supplied

theorem cache {name : String} {engine : Engine} (h : Upkept P made r) (hmade : made.Has engine)
    (hput : P name engine.lists) :
    Upkept P made { r with cache := r.cache.insert name engine } := by
  have hcases : ∀ other found, (r.cache.insert name engine).get? other = some found →
      other = name ∧ found = engine ∨ r.cache.get? other = some found := by
    intro other found hfound
    rw [KeyMap.get?_insert] at hfound
    split at hfound
    · next heq => exact .inl ⟨heq, (Option.some.inj hfound).symm⟩
    · exact .inr hfound
  refine ⟨h.fresh, fun other found hfound => ?_, fun other found hfound => ?_, h.stored, h.supplied⟩
  · rcases hcases other found hfound with ⟨-, rfl⟩ | hcached
    · exact hmade
    · exact h.made other found hcached
  · rcases hcases other found hfound with ⟨rfl, rfl⟩ | hcached
    · exact hput
    · exact h.cached other found hcached

theorem save {name : String} {engine : Engine} (h : Upkept P made r) (hput : MayPut P name engine) :
    Upkept P made { r with store := (r.store.save name engine.serialize).2 } := by
  refine ⟨h.fresh, h.made, h.cached, fun other data hdata => ?_, h.supplied⟩
  dsimp only at hdata
  rw [SnapshotStore.save] at hdata
  split at hdata
  · exact h.stored other data hdata
  · rw [KeyMap.get?_insert] at hdata
    split at hdata
    · next heq =>
      subst heq
      cases hdata
      exact holds_serialize hput
    · exact h.stored other data hdata

theorem uncache (h : Upkept P made r) (name : String) :
    Upkept P made { r with cache := r.cache.erase name } := by
  have hkept : ∀ other found, (r.cache.erase name).get? other = some found →
      r.cache.get? other = some found := by
    intro other found hfound
    rw [KeyMap.get?_erase] at hfound
    split at hfound
    · cases hfound
    · exact hfound
  exact ⟨h.fresh, fun other found hfound => h.made other found (hkept other found hfound),
    fun other found hfound => h.cached other found (hkept other found hfound), h.stored, h.supplied⟩

theorem unsave (h : Upkept P made r) (name : String) :
    Upkept P made { r with store := (r.store.remove name).2 } := by
  refine ⟨h.fresh, h.made, h.cached, fun other data hdata => ?_, h.supplied⟩
  dsimp only at hdata
  rw [SnapshotStore.remove] at hdata
  split at hdata
  · exact h.stored other data hdata
  · rw [KeyMap.get?_erase] at hdata
    split at hdata
    · cases hdata
    · exact h.stored other data hdata

theorem occupy (h : Upkept P made r) (busy : List String) : Upkept P made { r with busy } :=
  ⟨h.fresh, h.made, h.cached, h.stored, h.supplied⟩

end Upkept

/-- Origins for some new lists. -/
def reserve (count : Nat) : Task Registry Nat :=
  Task.act fun r => (r.fresh, { r with fresh := r.fresh + count })

section Tasks

variable {α : Type}

theorem keeps_exclusively {name : String} {task : Task Registry α} {post : Origins → α → Prop}
    (h : ∀ made', made ≤ made' → task.Keeps (Upkept P) post made')
    (hpost : ∀ a made made', made ≤ made' → post made a → post made' a) :
    (exclusively name task).Keeps (Upkept P) post made := by
  have htake : (Task.when (fun r : Registry => !r.busy.contains name) fun r =>
      ((), { r with busy := name :: r.busy })).Keeps (Upkept P) (fun _ _ => True) made :=
    Task.keeps_when fun made' _ r hr => ⟨made', le_rfl, hr.occupy _, trivial⟩
  exact htake.bind fun _ made' hle _ =>
    (h made' hle).withCleanup (fun _ r hr => hr.occupy (r.busy.erase name)) hpost

theorem keeps_reserve (contents : List ListContent) : (reserve contents.length).Keeps (Upkept P)
    (fun made origin => made.Has (Engine.ofContents origin contents)) made := by
  refine Task.keeps_act fun made' _ r hr => ?_
  have hadd := hr.add (contents.map .ofContent)
  rw [List.length_map] at hadd
  exact ⟨_, made'.le_add _, hadd, hr.fresh ▸ made'.has_ofContents contents⟩

theorem keeps_freshOrigin (list : FilterList) : freshOrigin.Keeps (Upkept P)
    (fun made origin => made.Has (Engine.ofList origin list)) made := by
  have hone : ∀ origin, Engine.ofContents origin [list.toListContent] = Engine.ofList origin list := by
    intro origin
    rw [← congrArg (Engine.ofList origin) list.ofContent_toListContent]
    rfl
  have hreserve : (reserve 1).Keeps (Upkept P)
      (fun made origin => made.Has (Engine.ofContents origin [list.toListContent])) made :=
    keeps_reserve [list.toListContent]
  exact hreserve.mono fun made origin h => hone origin ▸ h

theorem keeps_adopt {name : String} {data : Option (List UInt8)}
    (h : ∀ found, data = some found → Holds P name found) : (adopt name data).Keeps (Upkept P)
      Origins.HasAll made := by
  refine Task.keeps_act fun made' _ r hr => ?_
  cases hengine : data.bind fun data => (Engine.deserialize r.fresh data).toOption with
  | none => exact ⟨made', le_rfl, hr, nofun⟩
  | some engine =>
    obtain ⟨found, hfound, hread⟩ := Option.bind_eq_some_iff.1 hengine
    rw [Engine.deserialize] at hread
    cases hdecode : Snapshot.decode found with
    | error cause =>
      rw [hdecode] at hread
      cases hread
    | ok contents =>
      rw [hdecode] at hread
      obtain rfl := Option.some.inj hread
      have hmade := hr.fresh ▸ made'.has_ofContents contents
      have hadd := hr.add (contents.map .ofContent)
      have hput : P name (Engine.ofContents r.fresh contents).lists := by
        refine h found hfound _ ?_
        rw [readLists, hdecode, Engine.lists_ofContents]
        rfl
      have hlength : (contents.map FilterList.ofContent).length =
          (Engine.ofContents r.fresh contents).members.length := by simp [Engine.ofContents]
      rw [hlength] at hadd
      exact ⟨_, made'.le_add _, hadd.cache hmade hput, fun engine h => Option.some.inj h ▸ hmade⟩

theorem keeps_find (name : String) : (find name).Keeps (Upkept P) Origins.HasAll made := by
  have hget : (Task.read (·.get? name)).Keeps (Upkept P) Origins.HasAll made :=
    Task.keeps_read fun _ _ r hr engine hengine => hr.made name engine hengine
  have hstored : ∀ made, (adoptStored name).Keeps (Upkept P) Origins.HasAll made := by
    intro made
    have hload : (Task.read (·.store.load name)).Keeps (Upkept P) (fun _ stored =>
        ∀ found, stored.toOption.join = some found → Holds P name found) made :=
      Task.keeps_read fun _ _ r hr found hfound => hr.stored name found (stored_of_load hfound)
    exact hload.bind fun stored _ _ hdata => keeps_adopt hdata
  have hbundled : ∀ made, (adoptBundled name).Keeps (Upkept P) Origins.HasAll made := by
    intro made
    have hfetch : (fetchBundled (FileSource.snapshotFile name)).Keeps (Upkept P) (fun _ data =>
        ∀ found, data.toOption = some found → Holds P name found) made :=
      Task.keeps_when fun made' _ r hr => ⟨made', le_rfl, hr, fun found hfound =>
        hr.supplied.snapshots name found (ok_of_toOption hfound)⟩
    exact hfetch.bind fun data _ _ hdata => keeps_adopt hdata
  refine hget.bind fun cached made' _ hcached => ?_
  cases cached with
  | some engine => exact Task.keeps_pure hcached
  | none =>
    refine (hstored made').bind fun stored made'' _ hstored => ?_
    cases stored with
    | some engine => exact Task.keeps_pure hstored
    | none => exact hbundled made''

theorem keeps_init (name : String) : (init name).Keeps (Upkept P) Origins.HasAll made :=
  keeps_exclusively (fun _ _ => keeps_find name) fun _ _ _ => Origins.HasAll.mono

theorem keeps_keep {name : String} {engine : Engine} (hput : MayPut P name engine)
    (hmade : made.Has engine) : (keep name engine).Keeps (Upkept P) Origins.Has made := by
  refine (Task.keeps_change fun _ _ r hr => hr.save hput).bind fun _ made' hle _ => ?_
  have hmade' := hmade.mono hle
  refine (Task.keeps_change fun _ hle r hr => hr.cache (hmade'.mono hle) hput.lists).bind ?_
  exact fun _ made'' hle _ => Task.keeps_pure (hmade'.mono hle)

theorem keeps_insert {name : String} {engine : Engine} (hput : MayPut P name engine)
    (hmade : made.Has engine) : (insert name engine).Keeps (Upkept P) Origins.Has made :=
  keeps_exclusively (fun _ hle => keeps_keep hput (hmade.mono hle)) fun _ _ _ => Origins.Has.mono

theorem keeps_compileAndKeep {name text : String} (h : P name [(FilterList.parse name text).1]) :
    (compileAndKeep name text).Keeps (Upkept P) Origins.Has made :=
  (keeps_freshOrigin (FilterList.parse name text).1).bind fun origin _ _ hmade =>
    keeps_keep (mayPut_ofList origin h (FilterList.wellFormed_parse name text)) hmade

/-- A remote text is such as may stand under the name. -/
theorem keeps_fetchRemote (name : String) :
    (fetchRemote (FileSource.listFile name)).Keeps (Upkept P) (fun _ fetched =>
      ∀ found text, fetched = some found →
        found >>= FileSource.textOf (FileSource.listFile name) = .ok text →
          P name [(FilterList.parse name text).1]) made := by
  refine Task.keeps_when fun made' _ r hr => ⟨made', le_rfl, hr, fun found text hfound htext => ?_⟩
  obtain ⟨source, hsource, rfl⟩ := Option.map_eq_some_iff.1 hfound
  exact hr.supplied.remote source hsource name text htext

theorem keeps_listText (name : String) : (listText name).Keeps (Upkept P) (fun _ result =>
    ∀ text, result = .ok text → P name [(FilterList.parse name text).1]) made := by
  have hfetch : (fetchBundled (FileSource.listFile name)).Keeps (Upkept P) (fun _ fetched =>
      ∀ text, fetched >>= FileSource.textOf (FileSource.listFile name) = .ok text →
        P name [(FilterList.parse name text).1]) made :=
    Task.keeps_when fun made' _ r hr => ⟨made', le_rfl, hr, hr.supplied.texts name⟩
  refine hfetch.bind fun fetched _ _ hfetched => ?_
  split
  · next text htext =>
    refine Task.keeps_pure fun other hother => ?_
    cases hother
    exact hfetched text htext
  · refine (keeps_fetchRemote name).bind fun remote _ _ hremote => ?_
    cases remote with
    | none => exact Task.keeps_pure nofun
    | some fetched =>
      refine Task.keeps_pure fun text htext => hremote fetched text rfl ?_
      cases hresult : fetched >>= FileSource.textOf (FileSource.listFile name) with
      | ok found =>
        rw [hresult] at htext
        cases htext
        rfl
      | error cause =>
        rw [hresult] at htext
        cases htext

theorem keeps_resolve (name : String) : (resolve name).Keeps (Upkept P)
    (fun made result => made.HasAll result.toOption) made := by
  refine keeps_exclusively (fun _ _ => ?_) fun _ _ _ => Origins.HasAll.mono
  refine (keeps_find name).bind fun found made' _ hfound => ?_
  cases found with
  | some engine => exact Task.keeps_pure hfound
  | none =>
    refine (keeps_listText name).bind fun result _ _ hresult => ?_
    cases result with
    | error cause => exact Task.keeps_pure nofun
    | ok text =>
      refine (keeps_compileAndKeep (hresult text rfl)).bind fun engine _ _ hmade => ?_
      exact Task.keeps_pure fun other hother => Option.some.inj hother ▸ hmade

theorem keeps_update (name : String) :
    (update name).Keeps (Upkept P) (fun _ _ => True) made := by
  refine (keeps_fetchRemote name).bind fun fetched made' _ hfetched => ?_
  cases fetched with
  | none => exact Task.keeps_pure trivial
  | some fetched =>
    dsimp only
    split
    · exact Task.keeps_pure trivial
    · next text htext =>
      have hcompile : ∀ made, (do let _ ← compileAndKeep name text; pure (.ok true) :
          Task Registry (Except Failure Bool)).Keeps (Upkept P) (fun _ _ => True) made :=
        fun made => (keeps_compileAndKeep (hfetched fetched text rfl htext)).bind fun _ _ _ _ =>
          Task.keeps_pure trivial
      refine keeps_exclusively (fun _ _ => ?_) fun _ _ _ _ => id
      refine (keeps_find name).bind fun found made'' _ _ => ?_
      cases found with
      | none => exact hcompile made''
      | some engine =>
        dsimp only
        split
        · exact Task.keeps_pure trivial
        · exact hcompile made''

theorem keeps_remove (name : String) :
    (remove name).Keeps (Upkept P) (fun _ _ => True) made := by
  refine keeps_exclusively (fun _ _ => ?_) fun _ _ _ _ => id
  refine (Task.keeps_change fun _ _ r hr => hr.uncache name).bind fun _ _ _ _ => ?_
  exact Task.keeps_act fun made' _ r hr => ⟨made', le_rfl, hr.unsave name, trivial⟩

theorem keeps_applyCustomFilters {config : Config} (hown : MayOwn P config) :
    (applyCustomFilters config).Keeps (Upkept P) (fun _ _ => True) made := by
  rw [applyCustomFilters]
  split
  · exact (keeps_remove _).bind fun _ _ _ _ => Task.keeps_pure trivial
  · next text htext =>
    have horigin := @keeps_freshOrigin P made
      (CustomFilters.listOf text config.customFilters.trustedScriptlets)
    refine horigin.bind fun origin _ _ hmade => ?_
    have hput := mayPut_ofList origin (hown ListName.custom text htext)
      (FilterList.wellFormed_listOf text _)
    exact (keeps_insert hput hmade).bind fun _ _ _ _ => Task.keeps_pure trivial

theorem keeps_resolveList {config : Config} (hown : MayOwn P config) (name : String) :
    (MainEngine.resolveList config name).Keeps (Upkept P)
      (fun made result => made.HasAll result.toOption) made := by
  rw [MainEngine.resolveList]
  cases htext : MainEngine.ownText config name with
  | none => exact keeps_resolve name
  | some text =>
    have hcompile : ∀ made, (do
        let origin ← freshOrigin
        pure (.ok (← insert name (MainEngine.compileOwn config origin name text))) :
          Task Registry (Except Failure Engine)).Keeps (Upkept P)
            (fun made result => made.HasAll result.toOption) made := by
      intro made
      refine (keeps_freshOrigin (MainEngine.ownList config name text)).bind fun origin _ _ hmade => ?_
      rw [MainEngine.compileOwn_eq]
      have hput := mayPut_ofList origin (hown name text htext)
        (MainEngine.wellFormed_ownList config name text)
      refine (keeps_insert hput hmade).bind fun engine _ _ hkept => ?_
      exact Task.keeps_pure fun other hother => Option.some.inj hother ▸ hkept
    refine (keeps_init name).bind fun found made' _ hfound => ?_
    cases found with
    | none => exact hcompile made'
    | some engine =>
      dsimp only
      split
      · exact Task.keeps_pure hfound
      · exact hcompile made'

theorem keeps_resolveEach {config : Config} (hown : MayOwn P config) (ids : List String) :
    (MainEngine.resolveEach config ids).Keeps (Upkept P)
      (fun made found => ∀ entry ∈ found, made.HasAll (entry.map (·.2))) made := by
  refine Task.keeps_mapM (fun id _ made' _ => ?_) fun _ _ _ => Origins.HasAll.mono
  refine (keeps_resolveList hown id).bind fun result _ _ hresult => Task.keeps_pure ?_
  simpa [Function.comp_def] using hresult

theorem keeps_build {config : Config} (hown : MayOwn P config)
    (hmain : ∀ lists, P ListName.main lists) (ids : List String) :
    (MainEngine.build config ids).Keeps (Upkept P) (fun _ _ => True) made := by
  refine (keeps_resolveEach hown ids).bind fun found made' _ hfound => ?_
  have hmerge : made'.Has (Engine.merge ((found.filterMap id).map (·.2))) := by
    refine Origins.has_merge fun engine hengine => ?_
    obtain ⟨entry, hentry, rfl⟩ := List.mem_map.1 hengine
    exact hfound (some entry) (by simpa using hentry) entry.2 rfl
  refine (keeps_insert (.inl hmain) hmerge).bind fun _ _ _ _ => Task.keeps_pure trivial

theorem keeps_updateLists (ids : List String) :
    (MainEngine.updateLists ids).Keeps (Upkept P) (fun _ _ => True) made := by
  refine (Task.keeps_mapM (fun id _ _ _ => keeps_update id) fun _ _ _ _ => id).bind ?_
  exact fun _ _ _ _ => Task.keeps_pure trivial

end Tasks

/-- What is done on a registry: its operations, and what the main engine has done. -/
inductive Work where
  | init (name : String)
  | create (name text : String)
  /-- An engine that was made elsewhere, of new lists. -/
  | insert (name : String) (contents : List ListContent)
  /-- The cached engines of some names together. -/
  | replace (name : String) (names : List String)
  | update (name : String)
  | remove (name : String)
  | resolve (name : String)
  | applyCustomFilters (config : Config)
  | build (config : Config)
  | updateLists (config : Config)
  /-- Meanwhile the sources have other files, and the store other faults. -/
  | supply (bundled : FileSource) (remote : Option FileSource) (fails : StoreCall → Bool)

namespace Work

def task : Work → Task Registry Unit
  | init name => do let _ ← Registry.init name
  | create name text => do let _ ← Registry.create name text
  | insert name contents => do
    let origin ← reserve contents.length
    let _ ← Registry.insert name (.ofContents origin contents)
  | replace name names => do
    let engines ← names.mapM fun name => Task.read (·.get? name)
    let _ ← Registry.replace name (engines.filterMap id)
  | update name => do let _ ← Registry.update name
  | remove name => do let _ ← Registry.remove name
  | resolve name => do let _ ← Registry.resolve name
  | applyCustomFilters config => do let _ ← Registry.applyCustomFilters config
  | build config => do let _ ← MainEngine.build config (ListName.enabled config)
  | updateLists config => do let _ ← MainEngine.updateLists (ListName.enabled config)
  | supply bundled remote fails =>
    Task.change fun r => { r with bundled, remote, store := { r.store with fails } }

/-- Work that puts only such lists under names. -/
def Puts (P : String → List FilterList → Prop) : Work → Prop
  | create name text => P name [(FilterList.parse name text).1]
  | insert name contents => (∀ lists, P name lists) ∨
    P name (contents.map .ofContent) ∧ ∀ content ∈ contents, content.WellFormed
  | replace name _ => ∀ lists, P name lists
  | applyCustomFilters config => MayOwn P config
  | build config => MayOwn P config ∧ ∀ lists, P ListName.main lists
  | supply bundled remote _ => Supplied P bundled remote
  | init _ | update _ | remove _ | resolve _ | updateLists _ => True

theorem keeps {work : Work} (h : work.Puts P) (made : Origins) :
    work.task.Keeps (Upkept P) (fun _ _ => True) made := by
  have hforget : ∀ {α : Type} {task : Task Registry α} {post : Origins → α → Prop} {made : Origins},
      task.Keeps (Upkept P) post made →
        (do let _ ← task : Task Registry Unit).Keeps (Upkept P) (fun _ _ => True) made :=
    fun h => h.bind fun _ _ _ _ => Task.keeps_pure trivial
  cases work with
  | init name => exact hforget (keeps_init name)
  | create name text =>
    exact hforget (keeps_exclusively (fun _ _ => keeps_compileAndKeep h) fun _ _ _ => Origins.Has.mono)
  | insert name contents =>
    refine (keeps_reserve contents).bind fun origin _ _ hmade => hforget (keeps_insert ?_ hmade)
    refine h.imp_right fun ⟨hput, hwell⟩ => ?_
    rw [Engine.lists_ofContents]
    exact ⟨hput, List.forall_mem_map.2 hwell⟩
  | replace name names =>
    have hget : (names.mapM fun name => Task.read (·.get? name)).Keeps (Upkept P)
        (fun made engines => ∀ found ∈ engines, made.HasAll found) made :=
      Task.keeps_mapM (fun name _ _ _ => Task.keeps_read fun _ _ r hr engine hengine =>
        hr.made name engine hengine) fun _ _ _ => Origins.HasAll.mono
    refine hget.bind fun engines made' _ hengines => hforget (keeps_insert (.inl h) ?_)
    refine Origins.has_merge fun engine hengine => ?_
    exact hengines (some engine) (by simpa using hengine) engine rfl
  | update name => exact hforget (keeps_update name)
  | remove name => exact hforget (keeps_remove name)
  | resolve name => exact hforget (keeps_resolve name)
  | applyCustomFilters config => exact hforget (keeps_applyCustomFilters h)
  | build config => exact hforget (keeps_build h.1 h.2 _)
  | updateLists config => exact hforget (keeps_updateLists _)
  | supply bundled remote fails =>
    exact Task.keeps_change fun _ _ r hr => ⟨hr.fresh, hr.made, hr.cached, hr.stored, h⟩

end Work

/-- A registry that is opened on a store. -/
def opened (store : SnapshotStore) (bundled : FileSource) (remote : Option FileSource) : Registry :=
  { store, bundled, remote }

/-- A registry in some run of the program: each run is opened on what is left of what the run before had
stored, and then all its work interleaves. -/
inductive Run (fits : Work → Prop) (supplies : FileSource → Option FileSource → Prop) :
    Registry → Prop
  | first {store : SnapshotStore} {bundled : FileSource} {remote : Option FileSource}
      (hstore : ∀ name data, store.snapshots.get? name = some data → readLists data = none)
      (hsupplies : supplies bundled remote) : Run fits supplies (opened store bundled remote)
  | work {r r' : Registry} {tasks : List (Task Registry Unit)} (h : Run fits supplies r)
      (hwork : Task.Interleaves (fun task => ∃ work : Work, fits work ∧ task = work.task) r tasks r') :
      Run fits supplies r'
  | again {r : Registry} {store : SnapshotStore} {bundled : FileSource} {remote : Option FileSource}
      (h : Run fits supplies r)
      (hstore : ∀ name data, store.snapshots.get? name = some data →
        r.store.snapshots.get? name = some data ∨ readLists data = none)
      (hsupplies : supplies bundled remote) : Run fits supplies (opened store bundled remote)

/-- Work may run alone. -/
theorem Run.alone {fits : Work → Prop} {supplies : FileSource → Option FileSource → Prop}
    {r' : Registry} {work : Work} (h : Run fits supplies r) (hfit : fits work)
    (hrun : work.task.run? r = (some (), r')) : Run fits supplies r' :=
  h.work ((Task.Interleaves.start.join ⟨work, hfit, rfl⟩).run hrun)

/-- Whatever a run has done, it upholds what all its work and its sources uphold. -/
theorem Run.upkept {fits : Work → Prop} {supplies : FileSource → Option FileSource → Prop}
    (h : Run fits supplies r) (hfits : ∀ work, fits work → work.Puts P)
    (hsupplied : ∀ bundled remote, supplies bundled remote → Supplied P bundled remote) :
    ∃ made, Upkept P made r := by
  induction h with
  | @first store bundled remote hstore hsupplies =>
    refine ⟨⟨[]⟩, rfl, nofun, nofun, fun name data hdata lists hread => ?_, hsupplied _ _ hsupplies⟩
    rw [hstore name data hdata] at hread
    cases hread
  | work h hwork ih =>
    obtain ⟨made, hmade⟩ := ih
    have hkeeps : ∀ task : Task Registry Unit, (∃ work : Work, fits work ∧ task = work.task) →
        ∀ made, task.Keeps (Upkept P) (fun _ _ => True) made := by
      rintro task ⟨work, hfit, rfl⟩
      exact Work.keeps (hfits work hfit)
    obtain ⟨made', -, hmade', -⟩ := hwork.keeps hkeeps hmade
    exact ⟨made', hmade'⟩
  | @again r store bundled remote h hstore hsupplies ih =>
    obtain ⟨made, hmade⟩ := ih
    refine ⟨⟨[]⟩, rfl, nofun, nofun, fun name data hdata lists hread => ?_, hsupplied _ _ hsupplies⟩
    rcases hstore name data hdata with hkept | hdamaged
    · exact hmade.stored name data hkept lists hread
    · rw [hdamaged] at hread
      cases hread

end Registry

end ContentFilter
