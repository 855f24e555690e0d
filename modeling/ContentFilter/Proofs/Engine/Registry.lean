import ContentFilter.Engine.MainEngine
import ContentFilter.Proofs.Data.KeyMap
import ContentFilter.Proofs.Engine.Restore
import ContentFilter.Proofs.Task

/-! What a name of the registry comes to: the lists at hand, else those of the list text, and for a
list of the configuration's own those of its text. Work on a name leaves every other name alone. -/

namespace ContentFilter

namespace Engine

/-- The digest of an engine of these lists. -/
def digestOf (lists : List FilterList) : UInt64 := digest ⟨lists.map (⟨0, ·⟩)⟩

theorem digest_eq (engine : Engine) : engine.digest = digestOf engine.lists := by
  have hlists : (⟨engine.lists.map (⟨0, ·⟩)⟩ : Engine).lists = engine.lists := by
    rw [lists, List.map_map]
    exact List.map_id _
  rw [digestOf, digest, digest, hlists]

end Engine

namespace Registry

/-- No source keeps anybody waiting. -/
structure Prompt (r : Registry) : Prop where
  bundled : r.bundled.slow = []
  remote : ∀ source, r.remote = some source → source.slow = []

/-- Work on one name leaves the sources and every other name as they were. -/
structure Apart (name : String) (r r' : Registry) : Prop where
  bundled : r'.bundled = r.bundled
  remote : r'.remote = r.remote
  busy : r'.busy = r.busy
  cache : ∀ other ≠ name, r'.cache.get? other = r.cache.get? other
  store : ∀ other ≠ name, r'.store.load other = r.store.load other

theorem Apart.refl (name : String) (r : Registry) : Apart name r r :=
  ⟨rfl, rfl, rfl, fun _ _ => rfl, fun _ _ => rfl⟩

theorem Apart.trans {name : String} {a b c : Registry} (hab : Apart name a b)
    (hbc : Apart name b c) : Apart name a c where
  bundled := hbc.bundled.trans hab.bundled
  remote := hbc.remote.trans hab.remote
  busy := hbc.busy.trans hab.busy
  cache other hne := (hbc.cache other hne).trans (hab.cache other hne)
  store other hne := (hbc.store other hne).trans (hab.store other hne)

/-- The lists of a snapshot that can be read. -/
def readLists (data : List UInt8) : Option (List FilterList) :=
  (Snapshot.decode data).toOption.map fun contents => contents.map FilterList.ofContent

/-- The lists at hand under a name: cached, stored or shipped. -/
def lists? (r : Registry) (name : String) : Option (List FilterList) :=
  ((r.cache.get? name).map (·.lists)).or
    (((r.store.load name).toOption.join.bind readLists).or
      ((r.bundled.bytes (FileSource.snapshotFile name)).toOption.bind readLists))

/-- The text of a list, shipped or remote. -/
def text? (r : Registry) (name : String) : Option String :=
  (r.bundled.text (FileSource.listFile name)).toOption.or
    (r.remote.bind fun source => (source.text (FileSource.listFile name)).toOption)

/-- The lists that a name comes to under a configuration. -/
def leafLists? (r : Registry) (config : Config) (name : String) : Option (List FilterList) :=
  match MainEngine.ownText config name with
  | none => (r.lists? name).or ((r.text? name).map fun text => [(FilterList.parse name text).1])
  | some text =>
    let made := (r.lists? name).filter fun lists =>
      Engine.digestOf lists == MainEngine.ownDigest config name text
    made.or (some (MainEngine.compileOwn config 0 name text).lists)

theorem lists?_of_cached {r : Registry} {name : String} {engine : Engine}
    (h : r.cache.get? name = some engine) : r.lists? name = some engine.lists := by
  rw [lists?, h]
  rfl

theorem Apart.lists? {name other : String} {r r' : Registry} (h : Apart name r r')
    (hne : other ≠ name) : r'.lists? other = r.lists? other := by
  rw [Registry.lists?, Registry.lists?, h.cache other hne, h.store other hne, h.bundled]

theorem Apart.text? {name : String} {r r' : Registry} (h : Apart name r r') (other : String) :
    r'.text? other = r.text? other := by
  rw [Registry.text?, Registry.text?, h.bundled, h.remote]

theorem Apart.leafLists? {name other : String} {r r' : Registry} (h : Apart name r r')
    (hne : other ≠ name) (config : Config) :
    r'.leafLists? config other = r.leafLists? config other := by
  rw [Registry.leafLists?, Registry.leafLists?, h.lists? hne, h.text? other]

/-- What was looked for under a name and found, and then is cached. -/
structure Found (name : String) (expected : Option (List FilterList)) (r : Registry)
    (found : Option Engine) (r' : Registry) : Prop where
  apart : Apart name r r'
  lists : found.map (·.lists) = expected
  cached : ∀ engine, found = some engine → r'.cache.get? name = some engine
  missed : found = none → r' = r

theorem ends_adopt (name : String) (data : Option (List UInt8)) (r : Registry) :
    (adopt name data).Ends r (Found name (data.bind readLists) r) := by
  have hnone : Found name none r none r := by
    refine ⟨.refl name r, rfl, fun engine hengine => ?_, fun _ => rfl⟩
    cases hengine
  refine Task.ends_act ?_
  cases data with
  | none => exact hnone
  | some data =>
    simp only [Option.bind_some, Engine.deserialize, readLists]
    cases Snapshot.decode data with
    | error cause => exact hnone
    | ok contents =>
      refine ⟨⟨rfl, rfl, rfl, fun other hne => KeyMap.get?_insert_of_ne _ hne _, fun _ _ => rfl⟩,
        ?_, fun engine hengine => ?_, fun h => absurd h (Option.some_ne_none _)⟩
      · exact congrArg some (Engine.lists_ofContents r.fresh contents)
      · cases hengine
        exact KeyMap.get?_insert_self _ _ _

/-- What is at hand under a name is found. -/
theorem ends_find {r : Registry} (hslow : r.bundled.slow = []) (name : String) :
    (find name).Ends r (Found name (r.lists? name) r) := by
  refine Task.ends_bind (Task.ends_read ?_)
  rw [get?, lists?]
  cases hcache : r.cache.get? name with
  | some engine =>
    refine Task.ends_pure ⟨.refl name r, rfl, fun found hfound => ?_, nofun⟩
    cases hfound
    exact hcache
  | none =>
    refine Task.ends_bind (Task.ends_bind (Task.ends_read ((ends_adopt name _ r).mono ?_)))
    intro found a hfound
    cases found with
    | some engine =>
      refine Task.ends_pure ⟨hfound.apart, ?_, hfound.cached, nofun⟩
      rw [← hfound.lists]
      rfl
    | none =>
      obtain rfl := hfound.missed rfl
      rw [← hfound.lists]
      refine Task.ends_bind (Task.ends_when ?_ (ends_adopt name _ a))
      rw [hslow]
      rfl

/-- The registry with one name taken for exclusive work, and with all names free. -/
def taken (name : String) (r : Registry) : Registry := { r with busy := [name] }

def freed (r : Registry) : Registry := { r with busy := [] }

theorem Apart.freed {name : String} {r r' : Registry} (hbusy : r.busy = [])
    (h : Apart name (r.taken name) r') : Apart name r r'.freed :=
  ⟨h.bundled, h.remote, hbusy.symm, h.cache, h.store⟩

theorem freed_taken {name : String} {r : Registry} (hbusy : r.busy = []) :
    (r.taken name).freed = r := by
  cases r
  cases hbusy
  rfl

/-- Exclusive work on one name of an idle registry. -/
theorem ends_exclusively {α : Type} {name : String} {task : Task Registry α} {r : Registry}
    {post : α → Registry → Prop} (hbusy : r.busy = [])
    (h : task.Ends (r.taken name) fun a r' => Apart name (r.taken name) r' ∧ post a r'.freed) :
    (exclusively name task).Ends r post := by
  refine Task.ends_bind (Task.ends_when (by simp [hbusy]) (Task.ends_withCleanup ?_))
  dsimp only
  rw [hbusy]
  refine h.mono fun a r' ha => ?_
  have hfreed : r'.busy.erase name = [] := by
    rw [ha.1.busy, taken]
    simp
  rw [hfreed]
  exact ha.2

theorem ends_init {r : Registry} (hslow : r.bundled.slow = []) (hbusy : r.busy = []) (name : String) :
    (init name).Ends r (Found name (r.lists? name) r) := by
  have hfind := @ends_find (r.taken name) hslow name
  refine ends_exclusively hbusy (hfind.mono fun found r' hfound => ⟨hfound.apart, ?_⟩)
  refine ⟨hfound.apart.freed hbusy, hfound.lists, hfound.cached, fun hnone => ?_⟩
  rw [hfound.missed hnone, freed_taken hbusy]

/-- What was made for a name is cached under it. -/
structure Kept (name : String) (lists : List FilterList) (r : Registry) (engine : Engine)
    (r' : Registry) : Prop where
  apart : Apart name r r'
  lists : engine.lists = lists
  cached : r'.cache.get? name = some engine

theorem load_save_of_ne (store : SnapshotStore) {name other : String} (hne : other ≠ name)
    (data : List UInt8) : (store.save name data).2.load other = store.load other := by
  rw [SnapshotStore.save]
  split
  · rfl
  · rw [SnapshotStore.load, SnapshotStore.load, KeyMap.get?_insert_of_ne _ hne]

theorem load_save_self {store : SnapshotStore} (hfails : ∀ call, store.fails call = false)
    (name : String) (data : List UInt8) : (store.save name data).2.load name = .ok (some data) := by
  simp [SnapshotStore.save, SnapshotStore.load, hfails, KeyMap.get?_insert_self]

theorem fails_save (store : SnapshotStore) (name : String) (data : List UInt8) :
    (store.save name data).2.fails = store.fails := by
  rw [SnapshotStore.save]
  split <;> rfl

theorem load_remove_of_ne (store : SnapshotStore) {name other : String} (hne : other ≠ name) :
    (store.remove name).2.load other = store.load other := by
  rw [SnapshotStore.remove]
  split
  · rfl
  · simp [SnapshotStore.load, KeyMap.get?_erase, hne]

theorem fails_remove (store : SnapshotStore) (name : String) :
    (store.remove name).2.fails = store.fails := by
  rw [SnapshotStore.remove]
  split <;> rfl

theorem ends_keep (name : String) (engine : Engine) (r : Registry) :
    (keep name engine).Ends r (Kept name engine.lists r) := by
  refine Task.ends_bind (Task.ends_change (Task.ends_bind (Task.ends_change (Task.ends_pure ?_))))
  refine ⟨⟨rfl, rfl, rfl, fun other hne => ?_, fun other hne => ?_⟩, rfl, ?_⟩
  · exact KeyMap.get?_insert_of_ne _ hne _
  · exact load_save_of_ne _ hne _
  · exact KeyMap.get?_insert_self _ _ _

theorem Kept.freed {name : String} {lists : List FilterList} {r r' : Registry} {engine : Engine}
    (hbusy : r.busy = []) (h : Kept name lists (r.taken name) engine r') :
    Kept name lists r engine r'.freed := ⟨h.apart.freed hbusy, h.lists, h.cached⟩

theorem ends_insert {r : Registry} (hbusy : r.busy = []) (name : String) (engine : Engine) :
    (insert name engine).Ends r (Kept name engine.lists r) :=
  ends_exclusively hbusy ((ends_keep name engine (r.taken name)).mono fun _ _ h =>
    ⟨h.apart, h.freed hbusy⟩)

theorem ends_freshOrigin {r : Registry} {post : Nat → Registry → Prop}
    (h : post r.fresh { r with fresh := r.fresh + 1 }) : freshOrigin.Ends r post := Task.ends_act h

theorem ends_compileAndKeep (name text : String) (r : Registry) :
    (compileAndKeep name text).Ends r (Kept name [(FilterList.parse name text).1] r) := by
  refine Task.ends_bind (ends_freshOrigin ((ends_keep name _ _).mono fun engine r' h => ?_))
  exact ⟨⟨h.apart.bundled, h.apart.remote, h.apart.busy, h.apart.cache, h.apart.store⟩, h.lists,
    h.cached⟩

theorem Prompt.remote_ready {r : Registry} (h : r.Prompt) (path : String) :
    (!r.remote.any (·.slow.contains path)) = true := by
  cases hremote : r.remote with
  | none => rfl
  | some source => simp [h.remote source hremote]

/-- The text of a list is asked for and nothing changes. -/
theorem ends_listText {r : Registry} (hprompt : r.Prompt) (name : String) :
    (listText name).Ends r fun result r' => r' = r ∧ result.toOption = r.text? name := by
  refine Task.ends_bind (Task.ends_when (by simp [hprompt.bundled]) ?_)
  rw [text?, FileSource.text]
  cases r.bundled.bytes (FileSource.listFile name) >>= FileSource.textOf (FileSource.listFile name) with
  | ok text => exact Task.ends_pure ⟨rfl, rfl⟩
  | error cause =>
    refine Task.ends_bind (Task.ends_when (hprompt.remote_ready _) ?_)
    cases r.remote with
    | none => exact Task.ends_pure ⟨rfl, rfl⟩
    | some source =>
      refine Task.ends_pure ⟨rfl, ?_⟩
      simp only [FileSource.text, Except.toOption, Option.none_or, Option.bind_some]
      cases source.bytes (FileSource.listFile name) >>= FileSource.textOf (FileSource.listFile name) <;>
        rfl

/-- What a name comes to, which stays so afterwards. -/
structure Resolved (config : Config) (name : String) (r : Registry)
    (result : Except Failure Engine) (r' : Registry) : Prop where
  apart : Apart name r r'
  lists : result.toOption.map (·.lists) = r.leafLists? config name
  kept : r'.leafLists? config name = r.leafLists? config name

theorem ends_resolve {r : Registry} {config : Config} {name : String}
    (hforeign : MainEngine.ownText config name = none) (hprompt : r.Prompt) (hbusy : r.busy = []) :
    (resolve name).Ends r (Resolved config name r) := by
  have hleaf : ∀ r : Registry, r.leafLists? config name =
      (r.lists? name).or ((r.text? name).map fun text => [(FilterList.parse name text).1]) := by
    intro r
    rw [leafLists?, hforeign]
  have hcached : ∀ (r' : Registry) (engine : Engine), r'.cache.get? name = some engine →
      r'.leafLists? config name = some engine.lists := by
    intro r' engine h
    rw [hleaf, lists?_of_cached h]
    rfl
  have hprompt' : (r.taken name).Prompt := ⟨hprompt.bundled, hprompt.remote⟩
  refine ends_exclusively hbusy ?_
  refine Task.ends_bind ((ends_find hprompt'.bundled name).mono fun found a hfound => ?_)
  have hlists : found.map (·.lists) = r.lists? name := hfound.lists
  cases found with
  | some engine =>
    have hsome : r.leafLists? config name = some engine.lists := by
      rw [hleaf, ← hlists]
      rfl
    refine Task.ends_pure ⟨hfound.apart, hfound.apart.freed hbusy, hsome.symm, ?_⟩
    rw [hcached a.freed engine (hfound.cached engine rfl), hsome]
  | none =>
    obtain rfl := hfound.missed rfl
    refine Task.ends_bind ((ends_listText hprompt' name).mono fun result b hb => ?_)
    obtain ⟨rfl, htext⟩ := hb
    have hmade : r.leafLists? config name =
        result.toOption.map fun text => [(FilterList.parse name text).1] := by
      rw [hleaf, ← hlists, htext]
      rfl
    cases result with
    | error cause =>
      refine Task.ends_pure ⟨.refl name _, (Apart.refl name _).freed hbusy, hmade.symm, ?_⟩
      rw [freed_taken hbusy]
    | ok text =>
      refine Task.ends_bind ((ends_compileAndKeep name text (r.taken name)).mono fun engine c hc => ?_)
      refine Task.ends_pure ⟨hc.apart, hc.apart.freed hbusy, ?_, ?_⟩
      · rw [hmade]
        exact congrArg some hc.lists
      · rw [hcached c.freed engine hc.cached, hc.lists, hmade]
        rfl

theorem digest_compileOwn (config : Config) (origin : Nat) (name text : String) :
    (MainEngine.compileOwn config origin name text).digest = MainEngine.ownDigest config name text := by
  rw [MainEngine.compileOwn, MainEngine.ownDigest]
  split <;> rfl

theorem lists_compileOwn (config : Config) (origin : Nat) (name text : String) :
    (MainEngine.compileOwn config origin name text).lists =
      (MainEngine.compileOwn config 0 name text).lists := by
  rw [MainEngine.compileOwn, MainEngine.compileOwn]
  split <;> rfl

/-- A list of the configuration's own has the digest of its text. -/
theorem digestOf_leafLists? {r : Registry} {config : Config} {name text : String}
    (hown : MainEngine.ownText config name = some text) :
    (r.leafLists? config name).map Engine.digestOf = some (MainEngine.ownDigest config name text) := by
  rw [leafLists?, hown]
  dsimp only
  cases hmade : (r.lists? name).filter fun lists =>
      Engine.digestOf lists == MainEngine.ownDigest config name text with
  | none => rw [Option.none_or, Option.map_some, ← Engine.digest_eq, digest_compileOwn]
  | some lists =>
    rw [Option.some_or, Option.map_some, eq_of_beq (Option.filter_eq_some_iff.1 hmade).2]

/-- An engine at hand that was made from the text is what the name comes to. -/
theorem leafLists?_of_made {r : Registry} {config : Config} {name text : String} {engine : Engine}
    (hown : MainEngine.ownText config name = some text) (hlists : r.lists? name = some engine.lists)
    (hdigest : engine.digest = MainEngine.ownDigest config name text) :
    r.leafLists? config name = some engine.lists := by
  rw [Engine.digest_eq] at hdigest
  rw [leafLists?, hown]
  simp [hlists, Option.filter, hdigest]

/-- Without an engine made from the text the name comes to a new one. -/
theorem leafLists?_of_not_made {r : Registry} {config : Config} {name text : String}
    (hown : MainEngine.ownText config name = some text)
    (hnot : ∀ lists, r.lists? name = some lists →
      Engine.digestOf lists ≠ MainEngine.ownDigest config name text) :
    r.leafLists? config name = some (MainEngine.compileOwn config 0 name text).lists := by
  rw [leafLists?, hown]
  cases hlists : r.lists? name with
  | none => rfl
  | some lists => simp [Option.filter, hnot lists hlists]

/-- The engine of a list of the configuration's own is compiled and put in. -/
theorem ends_compileOwn {r a : Registry} {config : Config} {name text : String}
    (hown : MainEngine.ownText config name = some text) (hbusy : r.busy = [])
    (hapart : Apart name r a)
    (hleaf : r.leafLists? config name = some (MainEngine.compileOwn config 0 name text).lists) :
    (do
      let origin ← freshOrigin
      pure (.ok (← insert name (MainEngine.compileOwn config origin name text))) :
        Task Registry (Except Failure Engine)).Ends a (Resolved config name r) := by
  refine Task.ends_bind (ends_freshOrigin ?_)
  have hbusy' : a.busy = [] := hapart.busy.trans hbusy
  refine Task.ends_bind ((@ends_insert { a with fresh := a.fresh + 1 } hbusy' name _).mono ?_)
  intro engine b hb
  have hlists : engine.lists = (MainEngine.compileOwn config 0 name text).lists :=
    hb.lists.trans (lists_compileOwn config a.fresh name text)
  have hdigest : engine.digest = MainEngine.ownDigest config name text := by
    rw [Engine.digest_eq, hlists, ← Engine.digest_eq, digest_compileOwn]
  have hapart' : Apart name a b :=
    ⟨hb.apart.bundled, hb.apart.remote, hb.apart.busy, hb.apart.cache, hb.apart.store⟩
  refine Task.ends_pure ⟨hapart.trans hapart', ?_, ?_⟩
  · rw [hleaf]
    exact congrArg some hlists
  · rw [leafLists?_of_made hown (lists?_of_cached hb.cached) hdigest, hleaf, hlists]

theorem ends_resolveList {r : Registry} (config : Config) (name : String) (hprompt : r.Prompt)
    (hbusy : r.busy = []) : (MainEngine.resolveList config name).Ends r (Resolved config name r) := by
  rw [MainEngine.resolveList]
  cases hown : MainEngine.ownText config name with
  | none => exact ends_resolve hown hprompt hbusy
  | some text =>
    refine Task.ends_bind ((ends_init hprompt.bundled hbusy name).mono fun found a hfound => ?_)
    have hlists := hfound.lists
    cases found with
    | none =>
      refine ends_compileOwn hown hbusy hfound.apart (leafLists?_of_not_made hown fun lists h => ?_)
      rw [← hlists] at h
      cases h
    | some engine =>
      by_cases hdigest : engine.digest = MainEngine.ownDigest config name text
      · have hmade := leafLists?_of_made hown hlists.symm hdigest
        have hmade' := leafLists?_of_made hown (lists?_of_cached (hfound.cached engine rfl)) hdigest
        dsimp only
        rw [if_pos hdigest]
        exact Task.ends_pure ⟨hfound.apart, hmade.symm, hmade'.trans hmade.symm⟩
      · dsimp only
        rw [if_neg hdigest]
        refine ends_compileOwn hown hbusy hfound.apart (leafLists?_of_not_made hown fun lists h => ?_)
        rw [← hlists] at h
        cases h
        rwa [← Engine.digest_eq]

end Registry

/-- The engines of some names, as far as they can be had. -/
def MainEngine.resolveEach (config : Config) (ids : List String) :
    Task Registry (List (Option (String × Engine))) :=
  ids.mapM fun id => do
    pure ((← resolveList config id).toOption.map fun engine => (id, engine))

end ContentFilter
