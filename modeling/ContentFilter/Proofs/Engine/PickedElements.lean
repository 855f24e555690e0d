import ContentFilter.Proofs.Engine.Publication
import ContentFilter.Proofs.Filter.Picked
import ContentFilter.Proofs.Matching.Answers
import ContentFilter.Proofs.Matching.PageRules

/-! What the picked elements add to the answers of the engine. The text of the user's filters is looked
through for scriptlets that only trusted text may run, the text of the picked elements is not. -/

namespace ContentFilter

open CustomFilters (isRestricted)
open Domain (IsAscii)

namespace Registry

/-- Lists under a name of the configuration's own that have the digest of its text are what this text is
compiled to. -/
def Undisguised (config : Config) (name : String) (lists : List FilterList) : Prop :=
  ∀ text, MainEngine.ownText config name = some text →
    Engine.digestOf lists = MainEngine.ownDigest config name text →
      lists = [MainEngine.ownList config name text]

theorem Run.leafLists?_own {config : Config} {r : Registry} {name text : String}
    (h : Run (Work.Puts (Undisguised config)) (Supplied (Undisguised config)) r)
    (hown : MainEngine.ownText config name = some text) :
    r.leafLists? config name = some [MainEngine.ownList config name text] := by
  obtain ⟨made, hmade⟩ := h.upkept (fun _ => id) fun _ _ => id
  exact hmade.leafLists?_own hown fun lists hlists => hlists text hown

end Registry

namespace MainEngine

open Registry

variable {m : MainEngine} {name text : String}

theorem ownText_eq_some {config : Config} (h : ownText config name = some text) :
    name = ListName.custom ∧ config.effectiveCustomFilters = some text ∨
      name = ListName.elementPicker ∧ text = config.pickedFilters := by
  rw [ownText] at h
  split at h
  · next hname => exact .inl ⟨eq_of_beq hname, h⟩
  split at h
  · next hname => exact .inr ⟨eq_of_beq hname, (Option.some.inj h).symm⟩
  · cases h

theorem ownList_custom (config : Config) (text : String) : ownList config ListName.custom text =
    CustomFilters.listOf text config.customFilters.trustedScriptlets :=
  if_pos (beq_self_eq_true _)

theorem cosmetic_ownList_elementPicker (config : Config) :
    (ownList config ListName.elementPicker config.pickedFilters).cosmetic = config.picked.cosmetic := rfl

/-- A filter of a list that the configuration asks for and does not itself contain. -/
def IsForeign (m : MainEngine) (filter : CosmeticFilter) : Prop :=
  ∃ name ∈ ListName.enabled m.bus.config, ownText m.bus.config name = none ∧ ∃ lists,
    m.registry.leafLists? m.bus.config name = some lists ∧ ∃ list ∈ lists, filter ∈ list.cosmetic

theorem elementPicker_mem_enabled {config : Config} {filter : CosmeticFilter}
    (h : filter ∈ config.picked.cosmetic) : ListName.elementPicker ∈ ListName.enabled config := by
  -- without picks their text is empty
  have hpicks : config.picks ≠ [] := by
    intro hnone
    rw [ParsedList.mem_cosmetic_iff, Config.mem_filters_picked (by simp [hnone]), hnone] at h
    simp at h
  have hpicked : config.hasPickedElements = true := by
    obtain ⟨pick, hpick⟩ := List.exists_mem_of_ne_nil _ hpicks
    obtain ⟨⟨host, selectors⟩, hentry, hselector⟩ := List.mem_flatMap.1 hpick
    refine List.any_eq_true.2 ⟨(host, selectors), hentry, ?_⟩
    cases selectors with
    | nil => cases hselector
    | cons selector selectors => rfl
  simp [ListName.enabled, hpicked]

/-- The engine has just the lists that the configured names come to. -/
def IsMadeOf (engine : Engine) (m : MainEngine) : Prop :=
  ∀ list, list ∈ engine.lists ↔ ∃ name ∈ ListName.enabled m.bus.config, ∃ lists,
    m.registry.leafLists? m.bus.config name = some lists ∧ list ∈ lists

theorem isMadeOf_of_assembles {engine : Engine} (h : engine.Assembles (m.toPublish.flatMap (·.2))) :
    IsMadeOf engine m := by
  have hmem : ∀ list, list ∈ m.toPublish.flatMap (·.2) ↔ ∃ name ∈ ListName.enabled m.bus.config,
      ∃ lists, m.registry.leafLists? m.bus.config name = some lists ∧ list ∈ lists := by
    intro list
    simp only [toPublish, resolved, List.mem_flatMap, List.mem_filterMap, Option.map_eq_some_iff]
    constructor
    · rintro ⟨-, ⟨name, hname, lists, hlists, rfl⟩, hlist⟩
      exact ⟨name, hname, lists, hlists, hlist⟩
    · rintro ⟨name, hname, lists, hlists, hlist⟩
      exact ⟨(name, lists), ⟨name, hname, lists, hlists, rfl⟩, hlist⟩
  exact fun list => ⟨fun hlist => (hmem list).1 (h.ordered.subset hlist),
    fun hlist => h.complete ((hmem list).2 hlist)⟩

section Published

variable {engine : Engine} {list : FilterList} {filter : CosmeticFilter} (h : IsMadeOf engine m)
  (hrun : Run (Work.Puts (Undisguised m.bus.config)) (Supplied (Undisguised m.bus.config)) m.registry)
include h hrun

theorem IsMadeOf.cosmetic_cases (hlist : list ∈ engine.lists) (hfilter : filter ∈ list.cosmetic) :
    m.IsForeign filter ∨
      ∃ name text, ownText m.bus.config name = some text ∧ list = ownList m.bus.config name text := by
  obtain ⟨name, hname, lists, hlists, hmem⟩ := (h list).1 hlist
  cases hown : ownText m.bus.config name with
  | none => exact .inl ⟨name, hname, hown, lists, hlists, list, hmem, hfilter⟩
  | some text =>
    rw [hrun.leafLists?_own hown] at hlists
    cases hlists
    exact .inr ⟨name, text, hown, List.mem_singleton.1 hmem⟩

theorem IsMadeOf.isRead (hforeign : ∀ filter, m.IsForeign filter → filter.IsRead) :
    ∀ list ∈ engine.lists, ∀ filter ∈ list.cosmetic, filter.IsRead := by
  intro list hlist filter hfilter
  rcases h.cosmetic_cases hrun hlist hfilter with hother | ⟨name, text, -, rfl⟩
  · exact hforeign filter hother
  · exact isRead_ownList m.bus.config name text filter hfilter

theorem IsMadeOf.exists_list (hpicked : filter ∈ m.bus.config.picked.cosmetic) :
    ∃ list ∈ engine.lists, filter ∈ list.cosmetic := by
  have hleaf : m.registry.leafLists? m.bus.config ListName.elementPicker =
      some [ownList m.bus.config ListName.elementPicker m.bus.config.pickedFilters] :=
    hrun.leafLists?_own rfl
  have hlist := (h _).2 ⟨_, elementPicker_mem_enabled hpicked, _, hleaf, List.mem_singleton_self _⟩
  exact ⟨_, hlist, by rwa [cosmetic_ownList_elementPicker]⟩

/-- Without trust a restricted call is that of a picked filter, or of a list from elsewhere. -/
theorem IsMadeOf.picked_or_foreign (htrust : m.bus.config.customFilters.trustedScriptlets = false)
    (hlist : list ∈ engine.lists) (hfilter : filter ∈ list.cosmetic) {call : ScriptletCall}
    (hcall : filter.scriptlet? = some call) (hrestricted : isRestricted call.name = true) :
    filter ∈ m.bus.config.picked.cosmetic ∨ m.IsForeign filter := by
  rcases h.cosmetic_cases hrun hlist hfilter with hforeign | ⟨name, text, hown, rfl⟩
  · exact .inr hforeign
  rcases ownText_eq_some hown with ⟨rfl, -⟩ | ⟨rfl, rfl⟩
  · rw [ownList_custom, htrust] at hfilter
    rw [(CustomFilters.not_restricted_of_mem hfilter hcall).1] at hrestricted
    cases hrestricted
  · rw [cosmetic_ownList_elementPicker] at hfilter
    exact .inl hfilter

end Published

/-- Of the scriptlets that only trusted text may run, a page is answered with those that picked filters
give it (and lists from elsewhere). A host in lower case of single bytes is answered with all of them. -/
def RunsPicked (m : MainEngine) (engine : Engine) : Prop :=
  ∀ suffixes query found, engine.matchCosmetics suffixes query = .ok found →
    ∃ candidates filters, engine.collectNetwork (.page suffixes query.url) = .ok candidates ∧
      engine.collectCosmetics suffixes query = .ok filters ∧
      ∀ call, isRestricted call.name = true →
        (call ∈ found.scriptlets → ∃ filter, Engine.Gives suffixes query candidates filters call filter ∧
          (filter ∈ m.bus.config.picked.cosmetic ∨ m.IsForeign filter)) ∧
        ((∀ filter, m.IsForeign filter → filter.IsRead) → IsAscii query.hostname.toList →
          Text.lower query.hostname.toList = query.hostname.toList →
          ∀ filter ∈ m.bus.config.picked.cosmetic,
            Engine.Gives suffixes query candidates filters call filter → call ∈ found.scriptlets)

theorem IsMadeOf.runsPicked {engine : Engine} (h : IsMadeOf engine m)
    (hrun : Run (Work.Puts (Undisguised m.bus.config)) (Supplied (Undisguised m.bus.config)) m.registry)
    (htrust : m.bus.config.customFilters.trustedScriptlets = false) : m.RunsPicked engine := by
  intro suffixes query found hfound
  obtain ⟨candidates, filters, hcandidates, hfilters, hgiven⟩ := Engine.mem_scriptlets hfound
  refine ⟨candidates, filters, hcandidates, hfilters, fun call hcall => ⟨fun hmem => ?_, ?_⟩⟩
  · obtain ⟨list, hlist, filter, hfilter, hgives⟩ := (hgiven call).1 hmem
    exact ⟨filter, hgives, h.picked_or_foreign hrun htrust hlist hfilter hgives.brings.scriptlet hcall⟩
  · intro hforeign _ hlow filter hpicked hgives
    obtain ⟨list, hlist, hfilter⟩ := h.exists_list hrun hpicked
    exact (hgiven call).2 (h.isRead hrun hforeign) hlow list hlist filter hfilter hgives

/-- Without trust, restricted scriptlets are answered all the same: those of the picked filters, up to
exceptions. These are the filters that the lines of their text have, whatever the keys and selectors are,
and one hides elements exactly if there is no mark at the start of its body. So what was picked on a host
name, in one line, is for that host and hides elements unless the selector has a mark. -/
theorem reload_runs_picked {m : MainEngine} (h : m.Fresh)
    (hrun : Run (Work.Puts (Undisguised m.bus.config)) (Supplied (Undisguised m.bus.config)) m.registry)
    (htrust : m.bus.config.customFilters.trustedScriptlets = false) :
    ∃ m', reload.run? m = (some (.ended (.published (m.generation + 1) m'.published.ids)), m') ∧
      m.RunsPicked m'.published.engine ∧
      (∀ filter, filter ∈ m.bus.config.picked.filters ↔
        ∃ piece ∈ Text.splitOn '\n' m.bus.config.pickedFilters.toList,
          Filter.parseChars piece = .ok (some filter)) ∧
      (∀ filter ∈ m.bus.config.picked.cosmetic, ∃ hosts sep body, filter.IsCut hosts sep body) ∧
      ((∀ pick ∈ m.bus.config.picks, pick.IsClean) → ∀ filter,
        filter ∈ m.bus.config.picked.filters ↔ ∃ pick ∈ m.bus.config.picks, ∃ cosmetic,
          filter = .cosmetic cosmetic ∧ Filter.parse pick.line = .ok (some filter) ∧
          cosmetic.IsFor pick) := by
  obtain ⟨result, m', hreload, rfl, hids, hassembles⟩ := ends_reload h hrun
  rw [← hids] at hreload
  refine ⟨m', hreload, (isMadeOf_of_assembles hassembles).runsPicked hrun htrust,
    fun _ => ParsedList.mem_filters_parse, fun _ => Config.exists_isCut_of_mem_picked,
    fun hclean filter => ?_⟩
  rw [Config.mem_filters_picked hclean]
  constructor
  · rintro ⟨pick, hpick, hparse⟩
    obtain ⟨cosmetic, hcosmetic, hfor⟩ := (hclean pick hpick).isFor_of_parse hparse
    exact ⟨pick, hpick, cosmetic, hcosmetic, hparse, hfor⟩
  · rintro ⟨pick, hpick, cosmetic, -, hparse, -⟩
    exact ⟨pick, hpick, hparse⟩

/-- A main engine that picked elements are configured for, and nothing else. -/
def pickedOnly (picks : List (String × List String)) : MainEngine where
  registry := opened {} {} none
  bus := { config := {
    blockAds := false
    blockTrackers := false
    elementPickerSelectors := .ofList picks } }

/-- A call is picked on a host. -/
def pickedCookie : MainEngine := pickedOnly [("example.com", ["+js(trusted-set-cookie, a, b)"])]

theorem fresh_pickedCookie : pickedCookie.Fresh := ⟨⟨rfl, nofun⟩, rfl, rfl, rfl, Nat.le_refl 0⟩

theorem run_pickedCookie : Run (Work.Puts (Undisguised pickedCookie.bus.config))
    (Supplied (Undisguised pickedCookie.bus.config)) pickedCookie.registry :=
  .first nofun ⟨nofun, nofun, nofun⟩

theorem reload_runs_picked_cookie :
    pickedCookie.Fresh ∧ Run (Work.Puts (Undisguised pickedCookie.bus.config))
        (Supplied (Undisguised pickedCookie.bus.config)) pickedCookie.registry ∧
      pickedCookie.bus.config.customFilters.trustedScriptlets = false ∧
      ∃ m', reload.run? pickedCookie = (some (.ended (.published 1 m'.published.ids)), m') ∧
        pickedCookie.RunsPicked m'.published.engine ∧ pickedCookie.bus.config.picked.filters =
          [.cosmetic cookieFilter] := by
  obtain ⟨m', hreload, hpicked, -⟩ := reload_runs_picked fresh_pickedCookie run_pickedCookie rfl
  exact ⟨fresh_pickedCookie, run_pickedCookie, rfl, m', hreload, hpicked, by decide +kernel⟩

/-- The list of that call. -/
def cookiePick : FilterList := (FilterList.parse ListName.elementPicker cookieFilter.raw).1

theorem cosmetic_cookiePick : cookiePick.cosmetic = [cookieFilter] := by decide +kernel

theorem collectNetwork_cookiePick (request : Request) : cookiePick.collectNetwork request = .ok [] :=
  FilterList.collectNetwork_of_nil (by decide +kernel) request

/-- A page is answered with the call, although it is restricted and scriptlets are not trusted. -/
theorem pickedCookie_runs_restricted :
    pickedCookie.Fresh ∧ pickedCookie.bus.config.customFilters.trustedScriptlets = false ∧
      ∃ m' found, reload.run? pickedCookie =
          (some (.ended (.published 1 [ListName.elementPicker])), m') ∧
        m'.published.engine.matchCosmetics none (.bootstrap "https://example.com/") = .ok found ∧
        ∃ call ∈ found.scriptlets, isRestricted call.name = true := by
  obtain ⟨result, m', hreload, rfl, -, hassembles⟩ := ends_reload fresh_pickedCookie run_pickedCookie
  have hleaf : pickedCookie.registry.leafLists? pickedCookie.bus.config ListName.elementPicker =
      some [cookiePick] := run_pickedCookie.leafLists?_own rfl
  rw [toPublish_singleton (by decide +kernel) hleaf] at hreload hassembles
  have hlists : m'.published.engine.lists = [cookiePick] := hassembles.lists_eq (List.nodup_singleton _)
  have hanswer : m'.published.engine.matchCosmetics none (.bootstrap "https://example.com/") =
      .ok (.resolve (.bootstrap "https://example.com/") (.of []) [cookieFilter]) := by
    rw [Engine.matchCosmetics, Engine.collectNetwork, Engine.collectCosmetics, hlists]
    simp only [List.mapM_cons, List.mapM_nil, collectNetwork_cookiePick,
      collectCosmetics_cookie cosmetic_cookiePick]
    rfl
  refine ⟨fresh_pickedCookie, rfl, m', _, hreload, hanswer, ⟨"trusted-set-cookie", ["a", "b"]⟩, ?_,
    by decide⟩
  refine CosmeticMatch.mem_scriptlets_of_brings ?_ List.mem_cons_self ⟨rfl, rfl, rfl, rfl, by decide⟩
  exact List.forall_mem_singleton.2 (by rw [CosmeticFilter.IsRead]; decide +kernel)

end MainEngine

end ContentFilter
