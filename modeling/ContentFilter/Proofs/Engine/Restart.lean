import ContentFilter.Proofs.Engine.Upkeep

/-! A registry that is opened on the store of another gives back what the other has at hand: nothing is
under a name that the store and the shipped snapshots would not bring back. -/

namespace ContentFilter

namespace Registry

/-- What is called on a registry from outside. -/
inductive Call where
  | init (name : String)
  | create (name text : String)
  | insert (name : String) (engine : Engine)
  | replace (name : String) (engines : List Engine)
  | update (name : String)
  | remove (name : String)
  | resolve (name : String)

namespace Call

def name : Call → String
  | init name | create name _ | insert name _ | replace name _ | update name | remove name
  | resolve name => name

def task : Call → Task Registry Unit
  | init name => do let _ ← Registry.init name
  | create name text => do let _ ← Registry.create name text
  | insert name engine => do let _ ← Registry.insert name engine
  | replace name engines => do let _ ← Registry.replace name engines
  | update name => do let _ ← Registry.update name
  | remove name => do let _ ← Registry.remove name
  | resolve name => do let _ ← Registry.resolve name

/-- The lists of the engine that a call may make or is given, with the texts that the registry can
fetch. -/
def lists? (r : Registry) : Call → Option (List FilterList)
  | create name text => some [(FilterList.parse name text).1]
  | insert _ engine => some engine.lists
  | replace _ engines => some (Engine.merge engines).lists
  | update name =>
    (r.remote.bind fun source => (source.text (FileSource.listFile name)).toOption).map fun text =>
      [(FilterList.parse name text).1]
  | resolve name => (r.text? name).map fun text => [(FilterList.parse name text).1]
  | init _ | remove _ => none

end Call

variable {r r' : Registry} {bundled : FileSource} {name : String} {lists : List FilterList}

/-- Lists whose snapshot gives them back: its payload fits the size field of the header. The sets of all
filters that are compiled or read fit their fields anyway. -/
structure IsStorable (lists : List FilterList) : Prop where
  fits : ∀ list ∈ lists, list.toListContent.Fits
  size : Text.Utf8.size (Snapshot.payloadJson (lists.map (·.toListContent))).chars < 2 ^ 32

theorem readLists_encode (h : IsStorable lists) :
    readLists (Snapshot.encode (lists.map (·.toListContent))) = some lists := by
  have hdecode := Snapshot.decode_encode (List.forall_mem_map.2 h.fits) h.size
  rw [readLists, hdecode]
  show some ((lists.map (·.toListContent)).map FilterList.ofContent) = some lists
  rw [FilterList.map_ofContent_toListContent]

/-- What is left of a registry when it is closed. -/
def uncached (r : Registry) : Registry := { r with cache := .empty }

theorem lists?_uncached (r : Registry) (name : String) : r.uncached.lists? name =
    ((r.store.load name).toOption.join.bind readLists).or
      ((r.bundled.bytes (FileSource.snapshotFile name)).toOption.bind readLists) := rfl

theorem Apart.uncached (h : Apart name r r') : Apart name r.uncached r'.uncached :=
  ⟨h.bundled, h.remote, h.busy, fun _ _ => rfl, h.store⟩

/-- Work on a name after which the name comes back as it is, with the store in as good a state. -/
structure Persists (name : String) (r r' : Registry) : Prop where
  apart : Apart name r r'
  fails : r'.store.fails = r.store.fails
  backed : r'.lists? name = r'.uncached.lists? name

/-- All that an idle registry has at hand would come back, from a store that never fails. -/
structure Backed (bundled : FileSource) (r : Registry) : Prop where
  busy : r.busy = []
  bundled : r.bundled = bundled
  fails : ∀ call, r.store.fails call = false
  lists : ∀ name, r.lists? name = r.uncached.lists? name

theorem Persists.backed_of (h : Persists name r r') (hr : r.Backed bundled) :
    r'.Backed bundled where
  busy := h.apart.busy.trans hr.busy
  bundled := h.apart.bundled.trans hr.bundled
  fails call := by rw [h.fails, hr.fails]
  lists other := by
    by_cases hother : other = name
    · rw [hother, h.backed]
    · rw [h.apart.lists? hother, hr.lists, h.apart.uncached.lists? hother]

theorem Persists.freed (hbusy : r.busy = []) (h : Persists name (r.taken name) r') :
    Persists name r r'.freed := ⟨h.apart.freed hbusy, h.fails, h.backed⟩

theorem ends_exclusively_persists {α : Type} {task : Task Registry α} (hbusy : r.busy = [])
    (h : task.Ends (r.taken name) fun _ r' => Persists name (r.taken name) r') :
    (exclusively name task).Ends r fun _ r' => Persists name r r' := by
  apply ends_exclusively hbusy
  exact h.mono fun _ r' hr' => ⟨hr'.apart, hr'.freed hbusy⟩

/-- Looking for an engine stores nothing. -/
theorem ends_adopt_store (name : String) (data : Option (List UInt8)) (r : Registry) :
    (adopt name data).Ends r fun _ r' => r'.store = r.store := by
  apply Task.ends_act
  split <;> rfl

theorem ends_find_store (hslow : r.bundled.slow = []) (name : String) :
    (find name).Ends r fun _ r' => r'.store = r.store := by
  apply Task.ends_bind (Task.ends_read ?_)
  cases r.get? name with
  | some engine => exact Task.ends_pure rfl
  | none =>
    have hadopt := (ends_adopt name (r.store.load name).toOption.join r).and
      (ends_adopt_store name _ r)
    refine Task.ends_bind (Task.ends_bind (Task.ends_read (hadopt.mono ?_)))
    rintro found a ⟨hfound, hstore⟩
    cases found with
    | some engine => exact Task.ends_pure hstore
    | none =>
      obtain rfl := hfound.missed rfl
      have hready : (!a.bundled.slow.contains (FileSource.snapshotFile name)) = true := by
        simp [hslow]
      exact Task.ends_bind (Task.ends_when hready (ends_adopt_store name _ a))

/-- What is found would come back, as nothing is stored. -/
theorem ends_find_persists (hslow : r.bundled.slow = [])
    (hbacked : r.lists? name = r.uncached.lists? name) : (find name).Ends r fun found r' =>
      Found name (r.lists? name) r found r' ∧ Persists name r r' := by
  apply ((ends_find hslow name).and (ends_find_store hslow name)).mono
  rintro found r' ⟨hfound, hstore⟩
  have hsame : r'.uncached.lists? name = r.uncached.lists? name := by
    rw [lists?_uncached, lists?_uncached, hstore, hfound.apart.bundled]
  refine ⟨hfound, hfound.apart, by rw [hstore], ?_⟩
  cases found with
  | some engine =>
    rw [lists?_of_cached (hfound.cached engine rfl), hsame, ← hbacked, ← hfound.lists]
    rfl
  | none =>
    obtain rfl := hfound.missed rfl
    exact hbacked

theorem ends_keep_persists {engine : Engine} (hfails : ∀ call, r.store.fails call = false)
    (hstorable : IsStorable engine.lists) :
    (keep name engine).Ends r fun _ r' => Persists name r r' := by
  have hsaved : (keep name engine).Ends r fun _ r' =>
      r'.store = (r.store.save name engine.serialize).2 :=
    Task.ends_bind (Task.ends_change (Task.ends_bind (Task.ends_change (Task.ends_pure rfl))))
  apply ((ends_keep name engine r).and hsaved).mono
  rintro kept r' ⟨hkept, hstore⟩
  refine ⟨hkept.apart, by rw [hstore, fails_save], ?_⟩
  rw [lists?_of_cached hkept.cached, hkept.lists, lists?_uncached, hstore, load_save_self hfails]
  show some engine.lists = (readLists engine.serialize).or _
  rw [Engine.serialize, readLists_encode hstorable]
  rfl

theorem ends_compileAndKeep_persists {text : String} (hfails : ∀ call, r.store.fails call = false)
    (hstorable : IsStorable [(FilterList.parse name text).1]) :
    (compileAndKeep name text).Ends r fun _ r' => Persists name r r' := by
  apply Task.ends_bind (ends_freshOrigin ?_)
  have hkeep := @ends_keep_persists { r with fresh := r.fresh + 1 } name
    (Engine.compile r.fresh name text).1 hfails hstorable
  apply hkeep.mono
  intro engine r' h
  exact ⟨⟨h.apart.bundled, h.apart.remote, h.apart.busy, h.apart.cache, h.apart.store⟩, h.fails,
    h.backed⟩

theorem Persists.refl (h : r.lists? name = r.uncached.lists? name) : Persists name r r :=
  ⟨.refl name r, rfl, h⟩

theorem Persists.trans {a b c : Registry} (hab : Persists name a b) (hbc : Persists name b c) :
    Persists name a c :=
  ⟨hab.apart.trans hbc.apart, hbc.fails.trans hab.fails, hbc.backed⟩

theorem ends_remove_persists (hbusy : r.busy = []) :
    (remove name).Ends r fun _ r' => Persists name r r' := by
  apply ends_exclusively_persists hbusy
  refine Task.ends_bind (Task.ends_change (Task.ends_act ?_))
  show Persists name (r.taken name)
    { r.taken name with cache := r.cache.erase name, store := (r.store.remove name).2 }
  refine ⟨⟨rfl, rfl, rfl, fun other hne => ?_, fun other hne => ?_⟩, fails_remove _ _, ?_⟩
  · show (r.cache.erase name).get? other = r.cache.get? other
    simp [KeyMap.get?_erase, hne]
  · exact load_remove_of_ne r.store hne
  · have hcache : (r.cache.erase name).get? name = none := by simp [KeyMap.get?_erase]
    rw [lists?]
    dsimp only
    rw [hcache]
    rfl

theorem ends_update_persists (hr : r.Backed bundled) (hprompt : r.Prompt)
    (hstorable : ∀ source text, r.remote = some source →
      source.text (FileSource.listFile name) = .ok text → IsStorable [(FilterList.parse name text).1]) :
    (update name).Ends r fun _ r' => Persists name r r' := by
  refine Task.ends_bind (Task.ends_when (hprompt.remote_ready _) ?_)
  cases hremote : r.remote with
  | none => exact Task.ends_pure (.refl (hr.lists name))
  | some source =>
    dsimp only [Option.map_some]
    rw [← FileSource.text]
    cases htext : source.text (FileSource.listFile name) with
    | error cause => exact Task.ends_pure (.refl (hr.lists name))
    | ok text =>
      have hcompile : ∀ a, Persists name (r.taken name) a →
          (do let _ ← compileAndKeep name text; pure (.ok true) :
            Task Registry (Except Failure Bool)).Ends a
              fun _ r' => Persists name (r.taken name) r' := by
        intro a ha
        have hfails : ∀ call, a.store.fails call = false := ha.fails ▸ hr.fails
        have hkeep := @ends_compileAndKeep_persists a name text hfails
          (hstorable source text hremote htext)
        exact Task.ends_bind (hkeep.mono fun _ _ hb => Task.ends_pure (ha.trans hb))
      apply ends_exclusively_persists hr.busy
      have hfind := @ends_find_persists (r.taken name) name hprompt.bundled (hr.lists name)
      refine Task.ends_bind (hfind.mono ?_)
      rintro found a ⟨-, ha⟩
      cases found with
      | none => exact hcompile a ha
      | some engine =>
        dsimp only
        split
        · exact Task.ends_pure ha
        · exact hcompile a ha

theorem ends_resolve_persists (hr : r.Backed bundled) (hprompt : r.Prompt)
    (hstorable : ∀ text, r.text? name = some text → IsStorable [(FilterList.parse name text).1]) :
    (resolve name).Ends r fun _ r' => Persists name r r' := by
  have hprompt' : (r.taken name).Prompt := ⟨hprompt.bundled, hprompt.remote⟩
  have hfind := @ends_find_persists (r.taken name) name hprompt.bundled (hr.lists name)
  apply ends_exclusively_persists hr.busy
  refine Task.ends_bind (hfind.mono ?_)
  rintro found a ⟨hfound, ha⟩
  cases found with
  | some engine => exact Task.ends_pure ha
  | none =>
    obtain rfl := hfound.missed rfl
    refine Task.ends_bind ((ends_listText hprompt' name).mono ?_)
    rintro result b ⟨rfl, htext⟩
    cases result with
    | error cause => exact Task.ends_pure ha
    | ok text =>
      have hkeep := @ends_compileAndKeep_persists (r.taken name) name text hr.fails
        (hstorable text htext.symm)
      exact Task.ends_bind (hkeep.mono fun _ _ h => Task.ends_pure h)

namespace Call

/-- One call on a registry where every name is backed leaves it so, and leaves the other names. -/
theorem ends_task {call : Call} (hr : r.Backed bundled) (hprompt : r.Prompt)
    (hstorable : ∀ lists, call.lists? r = some lists → IsStorable lists) :
    call.task.Ends r fun _ r' => Persists call.name r r' := by
  have hforget : ∀ {α : Type} {task : Task Registry α} {post : Registry → Prop},
      (task.Ends r fun _ r' => post r') →
        (do let _ ← task : Task Registry Unit).Ends r fun _ r' => post r' :=
    fun h => Task.ends_bind (h.mono fun _ _ h => Task.ends_pure h)
  have hinsert : ∀ name engine, IsStorable engine.lists →
      (Registry.insert name engine).Ends r fun _ r' => Persists name r r' :=
    fun name engine h => ends_exclusively_persists hr.busy
      (@ends_keep_persists (r.taken name) name engine hr.fails h)
  cases call with
  | init name =>
    have hfind := @ends_find_persists (r.taken name) name hprompt.bundled (hr.lists name)
    exact hforget (ends_exclusively_persists hr.busy (hfind.mono fun _ _ h => h.2))
  | create name text =>
    have hkeep := @ends_compileAndKeep_persists (r.taken name) name text hr.fails (hstorable _ rfl)
    exact hforget (ends_exclusively_persists hr.busy hkeep)
  | insert name engine => exact hforget (hinsert name engine (hstorable _ rfl))
  | replace name engines => exact hforget (hinsert name (.merge engines) (hstorable _ rfl))
  | update name =>
    refine hforget (ends_update_persists hr hprompt fun source text hsource htext => hstorable _ ?_)
    rw [lists?, hsource]
    simp [htext, Except.toOption]
  | remove name => exact hforget (ends_remove_persists hr.busy)
  | resolve name =>
    refine hforget (ends_resolve_persists hr hprompt fun text htext => hstorable _ ?_)
    rw [lists?, htext]
    rfl

end Call

/-- A call at a time when the remote source, if there is one, has such files. -/
structure Visit where
  remote : Option FileSource
  call : Call

namespace Visit

def task (visit : Visit) : Task Registry Unit := do
  Task.change fun r => { r with remote := visit.remote }
  visit.call.task

/-- The remote source answers, and a snapshot gives back what the call may keep. -/
structure Suits (bundled : FileSource) (visit : Visit) : Prop where
  remote : ∀ source, visit.remote = some source → source.slow = []
  storable : ∀ lists, visit.call.lists? { bundled, remote := visit.remote } = some lists →
    IsStorable lists

theorem ends_task {visit : Visit} (hr : r.Backed bundled) (hslow : bundled.slow = [])
    (h : visit.Suits bundled) : visit.task.Ends r fun _ r' =>
      r'.Backed bundled ∧ ∀ name ≠ visit.call.name, r'.lists? name = r.lists? name := by
  have hr' : Backed bundled { r with remote := visit.remote } :=
    ⟨hr.busy, hr.bundled, hr.fails, hr.lists⟩
  have hprompt : Prompt { r with remote := visit.remote } :=
    ⟨by rw [hr.bundled, hslow], h.remote⟩
  have hlists : visit.call.lists? { r with remote := visit.remote } =
      visit.call.lists? { bundled, remote := visit.remote } := by
    have hbundled := hr.bundled
    subst hbundled
    cases visit.call <;> rfl
  have hcall := Call.ends_task hr' hprompt fun lists hlist => h.storable lists (hlists ▸ hlist)
  refine Task.ends_bind (Task.ends_change (hcall.mono ?_))
  intro _ r' hpersists
  exact ⟨hpersists.backed_of hr', fun name hne => hpersists.apart.lists? hne⟩

end Visit

/-- Called on either registry, `init` gives nothing, or it gives engines of the same lists. -/
def StartsAlike (name : String) (r r' : Registry) : Prop :=
  (init name).Both (init name) r r' fun found _ found' _ => found.map (·.lists) = found'.map (·.lists)

theorem startsAlike_of_lists? (hr : r.bundled.slow = []) (hbusy : r.busy = [])
    (hr' : r'.bundled.slow = []) (hbusy' : r'.busy = []) (h : r.lists? name = r'.lists? name) :
    StartsAlike name r r' := by
  apply (ends_init hr hbusy name).mono
  intro found _ hfound
  apply (ends_init hr' hbusy' name).mono
  intro found' _ hfound'
  show found.map (·.lists) = found'.map (·.lists)
  rw [hfound.lists, hfound'.lists, h]

theorem backed_opened {store : SnapshotStore} (hfails : ∀ call, store.fails call = false)
    (bundled : FileSource) (remote : Option FileSource) : (opened store bundled remote).Backed bundled :=
  ⟨rfl, rfl, hfails, fun _ => rfl⟩

/-- Whatever is called on a registry whose store never fails, afterwards each name starts as it would
start on what is stored, and no call changes how another name starts. -/
theorem starts_as_reopened {store : SnapshotStore} {bundled : FileSource} {remote : Option FileSource}
    {visits : List Visit} (hfails : ∀ call, store.fails call = false) (hslow : bundled.slow = [])
    (hvisits : ∀ visit ∈ visits, visit.Suits bundled) :
    (visits.forM Visit.task).Ends (opened store bundled remote) fun _ r =>
      (∀ name remote', StartsAlike name r (opened r.store bundled remote')) ∧
        ∀ visit : Visit, visit.Suits bundled → visit.task.Ends r fun _ r' =>
          ∀ name ≠ visit.call.name, StartsAlike name r r' := by
  -- that everything is backed is what each call keeps; all else is read off it at the end
  have hstep : ∀ visit ∈ visits, ∀ r : Registry, r.Backed bundled →
      visit.task.Ends r fun _ r' => r'.Backed bundled := by
    intro visit hvisit r hr
    exact (Visit.ends_task hr hslow (hvisits visit hvisit)).mono fun _ _ h => h.1
  apply (Task.ends_forM (backed_opened hfails bundled remote) hstep).mono
  intro _ r hr
  have hr_slow : r.bundled.slow = [] := by rw [hr.bundled, hslow]
  constructor
  · intro name remote'
    apply startsAlike_of_lists? hr_slow hr.busy hslow rfl
    rw [hr.lists, lists?_uncached, hr.bundled]
    rfl
  · intro visit hsuits
    apply (Visit.ends_task hr hslow hsuits).mono
    rintro _ r' ⟨hr', hlists⟩ name hne
    have hr'_slow : r'.bundled.slow = [] := by rw [hr'.bundled, hslow]
    exact startsAlike_of_lists? hr_slow hr.busy hr'_slow hr'.busy (hlists name hne).symm

/-- A list that is compiled and removed, two that are put in, and a name with bytes that are no
snapshot. -/
theorem starts_as_reopened_twoLists :
    (List.forM
      [⟨none, .create "ads" Engine.adsFilter.raw⟩, ⟨none, .insert "both" Engine.twoLists⟩,
        ⟨none, .remove "ads"⟩, ⟨none, .init "spoiled"⟩] Visit.task).Ends
      (opened { snapshots := KeyMap.empty.insert "spoiled" [0] } {} none) fun _ r =>
        ∀ name, StartsAlike name r (opened r.store {} none) := by
  have hcompiled : IsStorable [(FilterList.parse "ads" Engine.adsFilter.raw).1] := by
    refine ⟨Engine.fits_compile 0 "ads" Engine.adsFilter.raw, ?_⟩
    rw [Engine.parse_adsFilter]
    decide +kernel
  have hput : IsStorable Engine.twoLists.lists := by
    refine ⟨Engine.fits_merge fun engine hengine => ?_, Engine.size_twoLists⟩
    rcases List.mem_pair.1 hengine with rfl | rfl
    · exact Engine.fits_compile _ _ _
    · exact Engine.fits_compile _ _ _
  have hsuits : ∀ call : Call, (∀ lists, call.lists? {} = some lists → IsStorable lists) →
      (⟨none, call⟩ : Visit).Suits {} := by
    intro call hcall
    constructor
    · intro source hsource
      cases hsource
    · exact hcall
  apply (starts_as_reopened (fun _ => rfl) rfl ?_).mono
  · intro _ r h name
    exact h.1 name none
  · simp only [List.forall_mem_cons]
    refine ⟨hsuits _ ?_, hsuits _ ?_, hsuits _ ?_, hsuits _ ?_, List.forall_mem_nil _⟩
    · rintro lists ⟨⟩
      exact hcompiled
    · rintro lists ⟨⟩
      exact hput
    · rintro lists ⟨⟩
    · rintro lists ⟨⟩

end Registry

end ContentFilter
