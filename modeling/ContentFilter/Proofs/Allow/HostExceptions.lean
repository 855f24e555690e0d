import ContentFilter.Proofs.Allow.Exceptions
import ContentFilter.Proofs.Data.Traverse
import ContentFilter.Proofs.Filter.HostFilter
import Mathlib.Data.Bool.AllAny

/-! The user's exceptions for hosts on two paths: the test that is made on a request itself, and the
filters that the exceptions are written as. -/

namespace ContentFilter

open Domain (IsAscii IsHostname isWithin isWithinAny)

namespace TrackerDb

variable {db : TrackerDb} {id : String} {host : List Char} {trackers : List (String × Tracker)}

theorem filters?_eq_none : db.filters? id = none ↔ id ∉ db.trackers.map (·.1) := by
  rw [filters?, Option.map_eq_none_iff, List.lookup_eq_none_iff, List.mem_map]
  constructor
  · rintro hall ⟨entry, hentry, rfl⟩
    exact absurd (hall entry hentry) (by simp)
  · intro hnone entry hentry
    rw [bne_iff_ne]
    rintro rfl
    exact hnone ⟨entry, hentry, rfl⟩

/-- A host belongs to known trackers only. -/
theorem findHost_answers (hhost : IsAscii host) (trackers : List (String × Tracker)) :
    ∃ found, findHost host trackers = .ok found ∧ ∀ id ∈ found, id ∈ trackers.map (·.1) := by
  induction trackers with
  | nil => exact ⟨none, rfl, nofun⟩
  | cons entry rest ih =>
    obtain ⟨id, tracker⟩ := entry
    obtain ⟨within, hwithin⟩ :=
      Domain.isWithinAny_answers hhost (tracker.domains.map String.toList)
    rw [findHost, hwithin]
    cases within with
    | true =>
      refine ⟨some id, rfl, ?_⟩
      rintro other ⟨⟩
      exact List.mem_cons_self
    | false =>
      obtain ⟨found, hfound, hknown⟩ := ih
      exact ⟨found, hfound, fun other hother => List.mem_cons_of_mem _ (hknown other hother)⟩

theorem trackerOf_answers {url : String} (hhost : ∀ host ∈ Url.host? url.toList, IsAscii host) :
    ∃ found, db.trackerOf url = .ok found ∧ ∀ id ∈ found, db.filters? id ≠ none := by
  unfold trackerOf
  cases hurl : Url.host? url.toList with
  | none => exact ⟨none, rfl, nofun⟩
  | some host =>
    obtain ⟨found, hfound, hknown⟩ :=
      findHost_answers (Domain.isAscii_lower.2 (hhost host hurl)) db.trackers
    refine ⟨found, hfound, fun id hid => ?_⟩
    rw [ne_eq, filters?_eq_none, not_not]
    exact hknown id hid

end TrackerDb

namespace Exceptions

open NetworkFilter FilterOptions

/-- An exception for a host, on pages that are hosts as well. -/
structure IsForHost (db : TrackerDb) (id : String) (exception : TrackerException) : Prop where
  host : IsHostname id.toList
  pages : ∀ page ∈ exception.domains, IsHostname page.toList
  unknown : db.filters? id = none

/-- The exception lets a request pass. -/
def Spares (id : String) (exception : TrackerException) (request : Request) : Prop :=
  isWithin request.hostname.toList id.toList = .ok true ∧
    (exception.everywhere = true ∨
      isWithinAny request.sourceHostname.toList (exception.domains.map String.toList) = .ok true)

variable {db : TrackerDb} {id : String} {exception : TrackerException} {request : Request}

section Test

/-- The test on a request. -/
theorem isAttributed_of_unknown {tracker : Option String} (hunknown : db.filters? id = none)
    (htracker : tracker ≠ some id) :
    Trust.isAttributed db tracker request id = isWithin request.hostname.toList id.toList := by
  rw [Trust.isAttributed, if_neg (by simpa using htracker), if_pos (by rw [hunknown]; rfl)]

theorem spares_of_test (hhost : IsAscii request.hostname.toList)
    (hpage : IsAscii request.sourceHostname.toList) {tracker : Option String}
    (hunknown : db.filters? id = none) (htracker : tracker ≠ some id) :
    ∃ spared, (do if ← Trust.isAttributed db tracker request id then
        Trust.covers exception request.sourceHostname else pure false : Except Text.CutFault Bool) =
        .ok spared ∧ (spared = true ↔ Spares id exception request) := by
  rw [isAttributed_of_unknown hunknown htracker]
  unfold Spares Trust.covers
  obtain ⟨within, hwithin⟩ := Domain.isWithin_answers hhost id.toList
  obtain ⟨covered, hcovered⟩ :=
    Domain.isWithinAny_answers hpage (exception.domains.map String.toList)
  rw [hwithin, hcovered]
  cases within <;> cases covered <;> cases exception.everywhere <;>
    simp [bind, Except.bind, pure, Except.pure]

end Test

section Written

/-- The filter that an exception for a host is read as. -/
def hostException (raw host : List Char) (scope : Option (List String)) : NetworkFilter :=
  ofParts raw .allow Flag.hostAnchor.set (limited {} scope) (hostPattern host).hostname
    (hostPattern host).text

theorem assemble_host (raw host : List Char) (scope : Option (List String)) :
    assemble raw .allow (limited {} scope) (hostPattern host) = .ok (hostException raw host scope) :=
  assemble_hostAnchor rfl raw _ _

theorem parse_negate_host {scope : Option (List String)} (hid : IsHostname id.toList)
    (hscope : ∀ page ∈ scope.getD [], IsHostname page.toList) :
    ∃ raw, NetworkFilter.parse (negate ("||" ++ id ++ "^") scope) =
      .ok (hostException raw id.toList scope) := by
  have hline := toList_caret id
  have htrim : Text.trim (hostLine id.toList) = hostLine id.toList :=
    Text.trim_eq_self (hostLine_plain hid).2
  have hpages : ∀ page ∈ pagesOf scope, IsHostname page := by
    intro page hpage
    obtain ⟨name, hname, rfl⟩ := List.mem_map.1 hpage
    exact hscope name hname
  have hats : Text.dropStart? "@@" (Text.trim ("||" ++ id ++ "^").toList) = none := by
    rw [hline, htrim]
    rfl
  have hslash : ¬({} : FilterOptions).TakesSlash := by
    rintro (h | h | ⟨name, h, -⟩)
    · cases h
    · exact absurd h (by decide)
    · cases h
  have hsame : Exceptions.splitOptions (hostLine id.toList) =
      NetworkFilter.splitOptions (hostLine id.toList) := by
    rw [splitOptions_hostLine hid, Exceptions.splitOptions_eq, if_neg (by simp [hostLine]),
      cutDollar_of_not_mem (hostLine_plain hid).1]
  have hreads := readsAs_negatedLine htrim hpages (readsAs_hostLine hid) hslash hsame
  have htext := toList_negate hats scope
  rw [hline, htrim] at htext
  refine ⟨'@' :: '@' :: Text.trim (negatedLine (hostLine id.toList) scope), ?_⟩
  rw [parse_ats htext fun c => head?_negatedLine htrim, hreads.ofLine_eq, assemble_host]

theorem acceptsSource_hostException (raw : List Char) (id : String) (scope : Option (List String))
    (hpage : IsAscii request.sourceHostname.toList) :
    (hostException raw id.toList scope).acceptsSource request = .ok true ↔
      scope.getD [] = [] ∨
        isWithinAny request.sourceHostname.toList (pagesOf scope) = .ok true := by
  have hdomains : (hostException raw id.toList scope).domains = constraint? (pagesOf scope) := rfl
  rw [acceptsSource, hdomains, constraint?, pagesOf]
  cases scope.getD [] with
  | nil => simp
  | cons page pages =>
    rw [if_neg (by simp)]
    dsimp only
    rw [DomainConstraint.allows]
    change isWithinAny request.sourceHostname.toList _ = .ok true ↔ _
    rw [Domain.isWithinAny_iff hpage, Domain.isWithinAny_iff hpage]
    simp only [List.mem_map, exists_exists_and_eq_and, String.toList_ofList]
    rw [or_iff_right (List.cons_ne_nil page pages)]
    apply exists_congr
    intro name
    apply and_congr_right
    intro _
    exact Domain.isWithin_congr hpage (Text.lower_lower _)

/-- The filter of an exception accepts the requests that the exception is for. -/
theorem accepts_hostException (raw : List Char) (id : String) (scope : Option (List String))
    {parts : Url.Parts} (hurl : request.url.toList = parts.text)
    (hport : ∀ c ∈ parts.port.getD [], c.isDigit = true)
    (hhost : IsAscii request.hostname.toList) (hpage : IsAscii request.sourceHostname.toList) :
    (hostException raw id.toList scope).accepts request
        (hostException raw id.toList scope).regex?.join = .ok true ↔
      isWithin request.hostname.toList id.toList = .ok true ∧ (scope.getD [] = [] ∨
        isWithinAny request.sourceHostname.toList (pagesOf scope) = .ok true) := by
  have hkind : (hostException raw id.toList scope).acceptsKind request = true := rfl
  have hsource := acceptsSource_hostException raw id scope hpage
  have hwithin := Domain.isWithin_congr hhost (Text.lower_lower id.toList)
  rw [accepts, if_pos hkind, ← hsource, ← hwithin, acceptsUrl_hostPattern rfl rfl rfl hurl hport]
  cases (hostException raw id.toList scope).acceptsSource request with
  | error fault => simp [bind, Except.bind]
  | ok found => cases found <;> simp [bind, Except.bind, pure, Except.pure]

end Written

section Paths

variable {parts : Url.Parts} (hurl : request.url.toList = parts.text)
  (hport : ∀ c ∈ parts.port.getD [], c.isDigit = true)
  (hhost : IsAscii request.hostname.toList) (hpage : IsAscii request.sourceHostname.toList)
include hurl hport hhost hpage

/-- What one exception lets pass, its filters accept. -/
theorem exists_accepts_iff (hexception : IsForHost db id exception) :
    (∃ text ∈ filtersOf db id exception, ∃ filter, NetworkFilter.parse text = .ok filter ∧
      filter.accepts request filter.regex?.join = .ok true) ↔ Spares id exception request := by
  have hnever : isWithinAny request.sourceHostname.toList [] ≠ .ok true := by
    rw [ne_eq, Domain.isWithinAny_iff hpage]
    simp
  unfold filtersOf Spares
  rw [hexception.unknown]
  split
  · next hsilent =>
    simp only [Bool.and_eq_true, Bool.not_eq_true', List.isEmpty_iff] at hsilent
    simp [hsilent, hnever]
  · next hspoken =>
    have hscope : ∀ page ∈ (scopeOf exception).getD [], IsHostname page.toList := by
      unfold scopeOf
      intro page hmem
      split at hmem
      · cases hmem
      · exact hexception.pages page hmem
    obtain ⟨raw, hparse⟩ := parse_negate_host hexception.host hscope
    have haccepts := accepts_hostException raw id (scopeOf exception) hurl hport hhost hpage
    have hcovers : ((scopeOf exception).getD [] = [] ∨
        isWithinAny request.sourceHostname.toList (pagesOf (scopeOf exception)) = .ok true) ↔
        (exception.everywhere = true ∨
          isWithinAny request.sourceHostname.toList (exception.domains.map String.toList) =
            .ok true) := by
      unfold pagesOf scopeOf
      cases heverywhere : exception.everywhere with
      | true => simp
      | false =>
        have hdomains : exception.domains ≠ [] := by
          rintro hempty
          simp [heverywhere, hempty] at hspoken
        simp [hdomains]
    rw [hcovers] at haccepts
    change (∃ text ∈ [negate ("||" ++ id ++ "^") (scopeOf exception)], _) ↔ _
    simp only [List.mem_singleton, exists_eq_left, hparse, Except.ok.injEq, exists_eq_left']
    exact haccepts

/-- Outside of paused pages and of managed trusted domains, exceptions for hosts let a request pass
untouched just when one of the filters that they are written as matches it. -/
theorem isTrusted_iff_accepted (config : Config) (now : Nat) (htarget : IsAscii parts.host)
    (hpaused : Trust.isPaused config request.sourceHostname now = .ok false)
    (htrusted : Trust.isTrustedDomain config request.sourceHostname = .ok false)
    (hexceptions : ∀ entry ∈ config.exceptions.entries, IsForHost db entry.1 entry.2) :
    ∃ trusted, Trust.isTrusted config db request now = .ok trusted ∧
      (trusted = true ↔ ∃ text ∈ filters config db, ∃ filter,
        NetworkFilter.parse text = .ok filter ∧
          filter.accepts request filter.regex?.join = .ok true) := by
  have hlocated : ∀ host ∈ Url.host? request.url.toList, IsAscii host := by
    rw [hurl, Url.host?, parts.locate?_text]
    rintro host ⟨⟩
    exact htarget
  obtain ⟨tracker, htracker, hknown⟩ := db.trackerOf_answers hlocated
  obtain ⟨spared, hspared, hiff⟩ := anyM_answers
    (P := fun entry : String × TrackerException => Spares entry.1 entry.2 request)
    fun entry hentry => spares_of_test hhost hpage (hexceptions entry hentry).unknown
      fun hsome => hknown entry.1 hsome (hexceptions entry hentry).unknown
  have haccepted : (∃ text ∈ filters config db, ∃ filter, NetworkFilter.parse text = .ok filter ∧
      filter.accepts request filter.regex?.join = .ok true) ↔
      ∃ entry ∈ config.exceptions.entries, Spares entry.1 entry.2 request := by
    simp only [filters, List.mem_flatMap]
    constructor
    · rintro ⟨text, ⟨entry, hentry, htext⟩, haccepts⟩
      exact ⟨entry, hentry, (exists_accepts_iff hurl hport hhost hpage (hexceptions entry hentry)).1
        ⟨text, htext, haccepts⟩⟩
    · rintro ⟨entry, hentry, hspares⟩
      obtain ⟨text, htext, haccepts⟩ :=
        (exists_accepts_iff hurl hport hhost hpage (hexceptions entry hentry)).2 hspares
      exact ⟨text, ⟨entry, hentry, htext⟩, haccepts⟩
  rw [haccepted, ← hiff]
  refine ⟨spared, ?_, Iff.rfl⟩
  rw [Trust.isTrusted, hpaused, htrusted]
  cases hempty : config.exceptions.isEmpty with
  | true =>
    have hnone : config.exceptions.entries = [] := List.isEmpty_iff.1 hempty
    rw [hnone] at hspared
    exact hspared
  | false =>
    change (db.trackerOf request.url >>= _) = _
    rw [htracker]
    exact hspared

end Paths

/-- A user who paused one page, and who lets a host load on another page and a second one everywhere. -/
def hostConfig : Config where
  paused := .ofList [("other.org", {})]
  exceptions := .ofList [("CDN.net", { everywhere := true }), ("Ads.com", { domains := ["Site.com"] })]

def scriptUrl : Url.Parts where
  scheme := "https".toList
  user := some "me:pw@home".toList
  host := "x.ADS.com".toList
  port := some "8443".toList
  tail := "/ad.js".toList
  scheme_plain := by decide
  user_inside := List.all_iff_forall_prop.1 (by decide)
  isHost := .name (by decide) (by decide) (List.all_iff_forall_prop.1 (by decide))
  port_inside := List.all_iff_forall_prop.1 (by decide)
  tail_outside := by
    rintro c ⟨⟩
    decide

def scriptRequest : Request :=
  .build none "https://me:pw@home@x.ADS.com:8443/ad.js" (some "https://www.site.com/") .script

theorem isTrusted_iff_accepted_script :
    (∀ entry ∈ hostConfig.exceptions.entries, IsForHost (dbOf "||t-cdn.net^") entry.1 entry.2) ∧
      Trust.isTrusted hostConfig (dbOf "||t-cdn.net^") scriptRequest 0 = .ok true ∧
      ∃ text ∈ filters hostConfig (dbOf "||t-cdn.net^"), ∃ filter,
        NetworkFilter.parse text = .ok filter ∧
          filter.accepts scriptRequest filter.regex?.join = .ok true := by
  have hexceptions :
      ∀ entry ∈ hostConfig.exceptions.entries, IsForHost (dbOf "||t-cdn.net^") entry.1 entry.2 := by
    have hnames : ∀ entry ∈ hostConfig.exceptions.entries, ∀ name ∈ entry.1 :: entry.2.domains,
        Domain.normalize? name.toList = some (Text.lower name.toList) := by
      decide +kernel
    have hunknown : ∀ entry ∈ hostConfig.exceptions.entries,
        (dbOf "||t-cdn.net^").filters? entry.1 = none := by
      decide +kernel
    intro entry hentry
    constructor
    · exact Domain.isHostname_iff.2 (hnames entry hentry entry.1 List.mem_cons_self)
    · intro page hpage
      exact Domain.isHostname_iff.2 (hnames entry hentry page (List.mem_cons_of_mem _ hpage))
    · exact hunknown entry hentry
  have hurl : scriptRequest.url.toList = scriptUrl.text := by rfl
  have hpaused : Trust.isPaused hostConfig scriptRequest.sourceHostname 0 = .ok false := by rfl
  have htrusted : Trust.isTrusted hostConfig (dbOf "||t-cdn.net^") scriptRequest 0 = .ok true := by
    rfl
  have hport : ∀ c ∈ scriptUrl.port.getD [], c.isDigit = true := List.all_iff_forall_prop.1 (by decide)
  obtain ⟨trusted, hsame, hiff⟩ := isTrusted_iff_accepted hurl hport (by decide) (by decide)
    hostConfig 0 (by decide) hpaused (by rfl) hexceptions
  cases htrusted.symm.trans hsame
  exact ⟨hexceptions, htrusted, hiff.1 rfl⟩

end Exceptions

end ContentFilter
