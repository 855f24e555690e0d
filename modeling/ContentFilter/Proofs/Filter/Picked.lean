import ContentFilter.Config.Basic
import ContentFilter.Proofs.Filter.Body

/-! What the selectors that the user picked are read as. A filter hides elements unless its body has a
mark; a selector of one line that was picked for a host name becomes a filter for that host alone. -/

namespace ContentFilter

/-- Elements are hidden or get another style. -/
def CosmeticKind.hides : CosmeticKind → Bool
  | hide | style _ | extended => true
  | scriptlet _ | html => false

/-- A text has the filters of its pieces between line feeds. -/
theorem ParsedList.mem_filters_parse {text : String} {filter : Filter} :
    filter ∈ (parse text).filters ↔
      ∃ piece ∈ Text.splitOn '\n' text.toList, Filter.parseChars piece = .ok (some filter) := by
  have hreturn : ∀ c ∈ ['\r'], Text.isBlank c = true := List.forall_mem_singleton.2 rfl
  rw [parse, mem_filters_ofLines]
  refine Text.exists_mem_lines (fun line => ?_) nofun _
  rw [← Filter.parseChars_trim, Text.trim_append_blanks hreturn, Filter.parseChars_trim]

namespace CosmeticFilter

variable {filter : CosmeticFilter} {line : List Char}

theorem IsBody.hides {unhide : Bool} {body : List Char} {kind : CosmeticKind} {selector : String}
    (h : IsBody unhide body kind selector) : kind.hides = !isMarked body := by
  cases h with
  | call hbody hnamed =>
    rw [hbody]
    rfl
  | html hbody hselector =>
    rw [hbody]
    simp [isMarked, CosmeticKind.hides]
  | style hmark hbody hselector hbrace hcss =>
    rw [hmark]
    rfl
  | extended hmark hselector =>
    rw [hmark]
    rfl
  | hide hmark hselector =>
    rw [hmark]
    rfl

/-- What becomes of a filter's text. The hosts stand before the first separator, which makes an exception
or not, and a mark at the start of the body decides whether the filter hides elements. -/
structure IsCut (filter : CosmeticFilter) (hosts : List Char) (sep : Separator) (body : List Char) :
    Prop where
  cut : cutSeparator? filter.raw.toList = some (hosts, sep, body)
  names : ∃ names, parseHostnames hosts = .ok names ∧
    filter.hostnames = (names.filter (!·.1)).map (·.2) ∧
    filter.notHostnames = (names.filter (·.1)).map (·.2)
  unhide : filter.unhide = sep.unhide
  hides : filter.kind.hides = !isMarked (Text.trim body)

theorem exists_isCut (h : parseChars line = .ok filter) : ∃ hosts sep body, filter.IsCut hosts sep body := by
  obtain ⟨hosts, sep, body, hsplit⟩ := exists_isSplit h
  exact ⟨hosts, sep, body, hsplit.cut, hsplit.names, hsplit.unhide, hsplit.isBody.hides⟩

end CosmeticFilter

namespace Domain.IsHostname

variable {host : List Char}

/-- A host name is read as itself, up to the case of its letters. -/
theorem parseHostnames (h : IsHostname host) : CosmeticFilter.parseHostnames host =
    .ok [(false, String.ofList (Text.lower host))] := by
  have hsplit : Text.splitOn ',' host = [host] := List.splitOn_eq_singleton (h.not_mem (by decide))
  have hone : [host].filter (!·.isEmpty) = [host] := by simp [h.nonempty]
  have hentity : Text.dropEnd? ".*" host = none := by
    rw [Option.eq_none_iff_forall_ne_some]
    intro entity hentity
    refine h.not_mem (c := '*') (by decide) ?_
    rw [Text.dropEnd?_eq_some.1 hentity]
    simp
  have hname : CosmeticFilter.parseHostname host = .ok (String.ofList (Text.lower host)) := by
    rw [CosmeticFilter.parseHostname, hentity]
    dsimp only
    rw [h.normalize?]
  rw [CosmeticFilter.parseHostnames, hsplit, List.map_singleton, Text.trim_eq_self h.not_blank, hone]
  rw [List.mapM_cons, List.mapM_nil]
  split
  · exact absurd List.mem_cons_self (h.not_mem (c := '~') (by decide))
  · rw [hname]
    rfl

end Domain.IsHostname

/-- A selector that was picked for a host. -/
structure Pick where
  host : String
  selector : String

namespace Pick

/-- The text of its filter. -/
def line (pick : Pick) : String := pick.host ++ "##" ++ pick.selector

def isMarked (pick : Pick) : Bool := CosmeticFilter.isMarked (Text.trim pick.selector.toList)

/-- A selector of one line for a host name. -/
structure IsClean (pick : Pick) : Prop where
  host : Domain.IsHostname pick.host.toList
  selector : '\n' ∉ pick.selector.toList

variable {pick : Pick}

theorem toList_line (pick : Pick) :
    pick.line.toList = pick.host.toList ++ '#' :: '#' :: pick.selector.toList := by
  simp [line]

theorem IsClean.not_mem_line (h : pick.IsClean) : '\n' ∉ pick.line.toList := by
  have hhost : '\n' ∉ pick.host.toList := h.host.not_mem (by decide)
  simp [toList_line, hhost, h.selector]

theorem IsClean.trim_line (h : pick.IsClean) : Text.trim pick.line.toList =
    pick.host.toList ++ '#' :: '#' :: Text.trimEnd pick.selector.toList := by
  have happend : pick.line.toList = pick.host.toList ++ ['#', '#'] ++ pick.selector.toList := by
    simp [toList_line]
  rw [happend, Text.trim_append_left (fun c hc => ?_) (fun c hc => ?_) (by simp), List.append_assoc]
  · rfl
  · rw [List.head?_append_of_ne_nil _ h.host.nonempty] at hc
    exact h.host.not_blank c (List.mem_of_mem_head? hc)
  · rw [List.getLast?_append] at hc
    cases hc
    decide

end Pick

/-- A filter for the host of the pick alone, which hides elements unless the selector has a mark. -/
structure CosmeticFilter.IsFor (filter : CosmeticFilter) (pick : Pick) : Prop where
  hostnames : filter.hostnames = [String.ofList (Text.lower pick.host.toList)]
  notHostnames : filter.notHostnames = []
  unhide : filter.unhide = false
  hides : filter.kind.hides = !pick.isMarked

theorem Pick.IsClean.isFor {pick : Pick} (h : pick.IsClean) {filter : CosmeticFilter}
    (hfilter : CosmeticFilter.parse pick.line = .ok filter) : filter.IsFor pick := by
  obtain ⟨hosts, sep, body, hcut, ⟨names, hnames, hhostnames, hnot⟩, hunhide, hhides⟩ :=
    CosmeticFilter.exists_isCut hfilter
  have hmark : '#' ∉ pick.host.toList := h.host.not_mem (by decide)
  have hplain : ⟨"##", false, false⟩ ∈ CosmeticFilter.separators := by simp [CosmeticFilter.separators]
  have hline := CosmeticFilter.cutSeparator?_append hmark hplain (Text.trimEnd pick.selector.toList)
  rw [CosmeticFilter.raw_of_parseChars hfilter, String.toList_ofList, h.trim_line] at hcut
  cases hcut.symm.trans hline
  rw [h.host.parseHostnames] at hnames
  cases hnames
  rw [Text.trim_trimEnd] at hhides
  exact ⟨hhostnames, hnot, hunhide, hhides⟩

/-- The filter of a clean pick is cosmetic. -/
theorem Pick.IsClean.isFor_of_parse {pick : Pick} (h : pick.IsClean) {filter : Filter}
    (hfilter : Filter.parse pick.line = .ok (some filter)) :
    ∃ cosmetic, filter = .cosmetic cosmetic ∧ cosmetic.IsFor pick := by
  have hcontains : Text.contains "##" (Text.trim pick.line.toList) = true := by
    rw [Text.contains_iff, h.trim_line]
    exact ⟨pick.host.toList, Text.trimEnd pick.selector.toList, by simp⟩
  -- a selector may make the line unsupported, but the separator stays in it
  have hmark : Filter.typeOf (Text.trim pick.line.toList) ≠ .network := by
    rw [Filter.typeOf]
    split
    · nofun
    · rw [if_pos (List.any_eq_true.2 ⟨"##", List.mem_cons_self, hcontains⟩)]
      nofun
  cases filter with
  | cosmetic cosmetic => exact ⟨cosmetic, rfl, h.isFor (Filter.cosmetic_of_parseChars hfilter)⟩
  | network network =>
    unfold Filter.parse Filter.parseChars at hfilter
    extract_lets trimmed at hfilter
    split at hfilter
    · cases hfilter
    split at hfilter
    · next hnetwork => exact absurd hnetwork hmark
    · obtain ⟨cosmetic, -, heq⟩ := ok_of_map hfilter
      cases heq
    · cases hfilter

namespace Config

/-- The selectors that were picked, with their hosts. -/
def picks (config : Config) : List Pick :=
  config.elementPickerSelectors.entries.flatMap fun (host, selectors) =>
    selectors.map fun selector => ⟨host, selector⟩

theorem pickedFilters_eq (config : Config) :
    config.pickedFilters = "\n".intercalate (config.picks.map Pick.line) := by
  simp only [pickedFilters, picks, List.map_flatMap, List.map_map]
  rfl

/-- The filters of the picked elements. -/
def picked (config : Config) : ParsedList := .parse config.pickedFilters

theorem exists_isCut_of_mem_picked {config : Config} {filter : CosmeticFilter}
    (h : filter ∈ config.picked.cosmetic) : ∃ hosts sep body, filter.IsCut hosts sep body := by
  rw [ParsedList.mem_cosmetic_iff, picked, ParsedList.mem_filters_parse] at h
  obtain ⟨piece, -, hpiece⟩ := h
  exact CosmeticFilter.exists_isCut (Filter.cosmetic_of_parseChars hpiece)

/-- Clean picks have one filter each, if any, and no other filter comes of them. -/
theorem mem_filters_picked {config : Config} (h : ∀ pick ∈ config.picks, pick.IsClean)
    {filter : Filter} : filter ∈ config.picked.filters ↔
      ∃ pick ∈ config.picks, Filter.parse pick.line = .ok (some filter) := by
  have hpieces : config.pickedFilters.toList =
      ['\n'].intercalate (config.picks.map fun pick => pick.line.toList) := by
    rw [pickedFilters_eq, String.toList_intercalate, List.map_map]
    rfl
  rw [picked, ParsedList.mem_filters_parse, hpieces]
  by_cases hnone : config.picks = []
  · have hcomment : Filter.parseChars [] = .ok none := rfl
    simp [hnone, Text.splitOn, hcomment]
  · have hsplit : Text.splitOn '\n' (['\n'].intercalate (config.picks.map fun pick => pick.line.toList)) =
        config.picks.map fun pick => pick.line.toList := by
      refine List.splitOn_intercalate _ ?_ (by simpa using hnone)
      exact List.forall_mem_map.2 fun pick hpick => (h pick hpick).not_mem_line
    rw [hsplit]
    simp only [List.mem_map, exists_exists_and_eq_and]
    rfl

end Config

end ContentFilter
