import ContentFilter.Proofs.Data.BitNames
import ContentFilter.Proofs.Filter.Glob
import ContentFilter.Proofs.Filter.HostFilter
import ContentFilter.Proofs.Matching.NetworkIndex
import ContentFilter.Proofs.Text.Utf8

/-! A bar at the end of a pattern binds it to the end of the address. It does so for every pattern but
the empty one after a host. -/

namespace ContentFilter

open Domain (IsHostname)

namespace NetworkFilter

/-- Where in the bytes of an address the form of the filter lets its pattern begin: after the host and
its port, at a label of the host, at the start of the address, or anywhere. -/
def StartsAt (filter : NetworkFilter) (url : List Char) (text : List UInt8) : Prop :=
  match filter.hostname with
  | some _ => ∃ location ∈ Url.locate? url, text = Text.Utf8.encode (skipPort location.after)
  | none =>
    if filter.has .hostAnchor then
      ∃ location ∈ Url.locate? url, ∃ host ∈ Domain.lineage location.host,
        text = Text.Utf8.encode (host ++ location.after)
    else filter.has .leftAnchor = true → text = Text.Utf8.encode url

section StartsAt

variable {filter : NetworkFilter} {url : List Char} {text : List UInt8}

theorem startsAt_host {name : String} (hname : filter.hostname = some name) :
    filter.StartsAt url text ↔
      ∃ location ∈ Url.locate? url, text = Text.Utf8.encode (skipPort location.after) := by
  rw [StartsAt, hname]

theorem startsAt_label (hname : filter.hostname = none) (hhost : filter.has .hostAnchor = true) :
    filter.StartsAt url text ↔ ∃ location ∈ Url.locate? url,
      ∃ host ∈ Domain.lineage location.host, text = Text.Utf8.encode (host ++ location.after) := by
  simp only [StartsAt, hname, if_pos hhost]

theorem startsAt_address (hname : filter.hostname = none) (hhost : ¬filter.has .hostAnchor = true) :
    filter.StartsAt url text ↔ (filter.has .leftAnchor = true → text = Text.Utf8.encode url) := by
  simp only [StartsAt, hname, if_neg hhost]

end StartsAt

/-- The pattern takes what is left of the address from one of its places on up to the last byte. -/
def MatchesToEnd (filter : NetworkFilter) (url : List Char) : Prop :=
  ∃ text, text <:+ Text.Utf8.encode url ∧ filter.StartsAt url text ∧
    Glob.Fits ⟨true, filter.has .matchCase⟩ (Text.Utf8.encode filter.pattern.toList) text

/-- The line has no options. -/
def IsOptionFree (line : List Char) : Prop :=
  (splitOptions (actionAndLine (Text.trim line)).2).2 = none

/-- A filter with an anchor at its end that nothing but its pattern limits. -/
structure EndsAnchored (filter : NetworkFilter) : Prop where
  anchor : filter.has .rightAnchor = true
  plain : filter.isRegex = false
  host : ∀ host, filter.hostname = some host → IsHostname host.toList
  limited : filter.hostname = none → filter.pattern ≠ ""
  anyKind : ∀ request, filter.acceptsKind request = true
  anySource : ∀ request, filter.acceptsSource request = .ok true

section Reading

variable {line : List Char} {filter : NetworkFilter}

/-- The filter of a line without options is what its pattern makes it. -/
theorem exists_pattern_of_optionFree (h : parseChars line = .ok filter) (hfree : IsOptionFree line) :
    ∃ raw action text pattern, readPattern text = .ok pattern ∧
      isUnrestricted pattern pattern.flags {} = false ∧
      filter = ofParts raw action pattern.flags {} pattern.hostname pattern.text := by
  rw [parseChars_eq] at h
  split at h
  · cases h
  obtain ⟨options, pattern, hreads, hlimited, rfl⟩ := readsAs_of_ofLine h
  have hdefault : FilterOptions.ofPieces (FilterOptions.pieces none) = .ok {} := rfl
  have hoptions := hreads.options
  rw [hfree, hdefault] at hoptions
  obtain rfl := Except.ok.inj hoptions
  have hflags : ∀ action, (optionFlags action {}).union pattern.flags = pattern.flags := by
    intro action
    refine BitNames.eq_of_mem fun i => ?_
    have hnone : optionFlags action {} = .empty := rfl
    rw [hnone, BitSet.mem_union, BitSet.mem_empty, Bool.false_or]
  rw [hflags] at hlimited
  rw [hflags]
  exact ⟨_, _, _, pattern, hreads.pattern, hlimited, rfl⟩

/-- Only a pattern that is read as one has an anchor at its end. -/
theorem readPattern_rightAnchor {text : List Char} {pattern : Pattern}
    (h : readPattern text = .ok pattern) (hanchor : pattern.flags.mem Flag.rightAnchor.index = true) :
    pattern.flags.Below 6 ∧ ∀ host, pattern.hostname = some host → IsHostname host.toList := by
  unfold readPattern at h
  split at h
  · split at h
    · cases h
      have hnot : Flag.hostAnchor.set.mem Flag.rightAnchor.index = false := by decide
      exact absurd (hnot.symm.trans hanchor) nofun
    · cases h
  · rcases parsePattern_cases h with ⟨-, -, -, rfl⟩ | ⟨hflags, -, hhost⟩
    · have hnot : Flag.regex.set.mem Flag.rightAnchor.index = false := by decide
      exact absurd (hnot.symm.trans hanchor) nofun
    · refine ⟨hflags, fun host hname => ?_⟩
      obtain ⟨name, hname⟩ := hhost host hname
      exact Domain.isHostname_of_normalize? hname

theorem endsAnchored_of_optionFree (h : parseChars line = .ok filter) (hfree : IsOptionFree line)
    (hregex : filter.isRegex = false) (hanchor : filter.has .rightAnchor = true) :
    filter.EndsAnchored := by
  obtain ⟨raw, action, text, pattern, hpattern, hlimited, rfl⟩ := exists_pattern_of_optionFree h hfree
  obtain ⟨hflags, hhost⟩ := readPattern_rightAnchor hpattern hanchor
  have hhides : pattern.flags.meets (Flag.genericHide.set.union Flag.elemHide.set) = false := by
    refine BitNames.meets_eq_false fun i hi => ?_
    by_contra hmem
    have hlow := hflags i (by simpa using hmem)
    have hhigh : Flag.genericHide.index = i ∨ Flag.elemHide.index = i := by simpa [Flag.set] using hi
    simp only [Flag.index] at hhigh
    omega
  refine ⟨hanchor, hregex, hhost, fun hnone hempty => ?_, fun _ => rfl, fun _ => rfl⟩
  have hname : pattern.hostname = none := hnone
  have htext : pattern.text = "" := hempty
  have hall : isUnrestricted pattern pattern.flags {} = true := by
    rw [isUnrestricted, hname, htext, hhides]
    rfl
  rw [hall] at hlimited
  cases hlimited

end Reading

section Matching

variable {filter : NetworkFilter} {request : Request} {regex : Option Regex} {url : List Char}
  {name : String}

theorem encode_suffix_url {location : Url.Location} {text : List Char}
    (hlocated : Url.locate? url = some location) (h : text <:+ location.host ++ location.after) :
    Text.Utf8.encode text <:+ Text.Utf8.encode url := by
  rw [Url.locate?_append hlocated]
  exact Text.Utf8.encode_suffix (h.trans (List.suffix_append _ _))

/-- A pattern that is not empty is compared with the address from one of its places on. -/
theorem exists_start_of_acceptsUrl (hplain : filter.isRegex = false) (hpattern : filter.pattern ≠ "")
    (haccepts : filter.acceptsUrl request regex = .ok true) :
    ∃ text, text <:+ Text.Utf8.encode request.url.toList ∧ filter.StartsAt request.url.toList text ∧
      Glob.Fits filter.mode (Text.Utf8.encode filter.pattern.toList) text := by
  have hfull : (Text.Utf8.encode filter.pattern.toList).isEmpty = false := by
    rw [List.isEmpty_eq_false_iff, ne_eq, Text.Utf8.encode_eq_nil, String.toList_eq_nil_iff]
    exact hpattern
  unfold acceptsUrl at haccepts
  simp only [hplain, hfull, Bool.false_eq_true, if_false, Bool.false_or] at haccepts
  split at haccepts
  · next name hname =>
    obtain ⟨within, -, haccepts⟩ := ok_of_bind haccepts
    cases within with
    | false => cases haccepts
    | true =>
      cases hlocated : Url.locate? request.url.toList with
      | none =>
        rw [hlocated] at haccepts
        cases haccepts
      | some location =>
        rw [hlocated] at haccepts
        have hsuffix : skipPort location.after <:+ location.host ++ location.after :=
          (skipPort_suffix location.after).trans (List.suffix_append _ _)
        exact ⟨_, encode_suffix_url hlocated hsuffix, (startsAt_host hname).2 ⟨location, hlocated, rfl⟩,
          (Glob.isMatch_iff _ _ _).1 (Except.ok.inj haccepts)⟩
  · next hname =>
    split at haccepts
    · next hhost =>
      cases hlocated : Url.locate? request.url.toList with
      | none =>
        rw [hlocated] at haccepts
        cases haccepts
      | some location =>
        rw [hlocated] at haccepts
        obtain ⟨host, hmem, hmatch⟩ := List.any_eq_true.1 (Except.ok.inj haccepts)
        obtain ⟨front, hfront⟩ := Domain.suffix_of_mem_lineage hmem
        have hsuffix : host ++ location.after <:+ location.host ++ location.after :=
          ⟨front, by rw [← List.append_assoc, hfront]⟩
        exact ⟨_, encode_suffix_url hlocated hsuffix,
          (startsAt_label hname hhost).2 ⟨location, hlocated, host, hmem, rfl⟩,
          (Glob.isMatch_iff _ _ _).1 hmatch⟩
    · next hhost =>
      split at haccepts
      · exact ⟨_, List.suffix_rfl, (startsAt_address hname hhost).2 fun _ => rfl,
          (Glob.isMatch_iff _ _ _).1 (Except.ok.inj haccepts)⟩
      · next hleft =>
        obtain ⟨text, hsuffix, -, hfits⟩ := (Glob.isMatchInside_iff _ _ _).1 (Except.ok.inj haccepts)
        exact ⟨text, hsuffix, (startsAt_address hname hhost).2 fun hanchor => absurd hanchor hleft, hfits⟩

theorem EndsAnchored.matchesToEnd (h : filter.EndsAnchored) (hpattern : filter.pattern ≠ "")
    (haccepts : filter.acceptsUrl request regex = .ok true) :
    filter.MatchesToEnd request.url.toList := by
  have hmode : filter.mode = ⟨true, filter.has .matchCase⟩ := by rw [mode, h.anchor]
  have hstart := exists_start_of_acceptsUrl h.plain hpattern haccepts
  rwa [hmode] at hstart

/-- Of a host without a pattern nothing but the host is looked at. -/
theorem acceptsUrl_bareHost (hplain : filter.isRegex = false) (hname : filter.hostname = some name)
    (hpattern : filter.pattern = "") :
    filter.acceptsUrl request regex = Domain.isWithin request.hostname.toList name.toList := by
  rw [acceptsUrl, hplain, hname, hpattern]
  dsimp only
  cases Domain.isWithin request.hostname.toList name.toList with
  | error fault => rfl
  | ok within => cases within <;> rfl

theorem matchesToEnd_bareHost (hname : filter.hostname = some name) (hpattern : filter.pattern = "") :
    filter.MatchesToEnd url ↔
      ∃ location, Url.locate? url = some location ∧ skipPort location.after = [] := by
  have hempty : Text.Utf8.encode filter.pattern.toList = [] := by
    rw [hpattern]
    rfl
  simp only [MatchesToEnd, startsAt_host hname, hempty]
  constructor
  · rintro ⟨text, -, ⟨location, hlocated, htext⟩, hfits⟩
    rw [Glob.fits_nil.1 hfits rfl] at htext
    exact ⟨location, hlocated, Text.Utf8.encode_eq_nil.1 htext.symm⟩
  · rintro ⟨location, hlocated, hend⟩
    exact ⟨[], List.nil_suffix, ⟨location, hlocated, by rw [hend]; rfl⟩, Glob.fits_nil.2 fun _ => rfl⟩

theorem EndsAnchored.matchesToEnd_iff (h : filter.EndsAnchored)
    (haccepts : filter.accepts request regex = .ok true) :
    filter.MatchesToEnd request.url.toList ↔ (filter.pattern = "" →
      ∃ location, Url.locate? request.url.toList = some location ∧ skipPort location.after = []) := by
  by_cases hpattern : filter.pattern = ""
  · cases hname : filter.hostname with
    | none => exact absurd hpattern (h.limited hname)
    | some name => rw [matchesToEnd_bareHost hname hpattern, imp_iff_right hpattern]
  · exact iff_of_true (h.matchesToEnd hpattern (acceptsUrl_of_accepts haccepts))
      fun hempty => absurd hempty hpattern

end Matching

section Page

variable {host : List Char}

theorem isHost_of_isHostname (h : IsHostname host) : Url.IsHost host := by
  have hforeign : ∀ c ∈ ['/', '?', '#', '@', ':', '['], (!isHostChar c) = true :=
    List.all_eq_true.1 (by decide)
  refine .name h.nonempty (fun hfirst => ?_) fun c hc => ?_
  · exact h.not_mem (by decide) (List.mem_of_mem_head? hfirst)
  · have hne : c ∉ ['/', '?', '#', '@', ':', '['] := by
      intro hsign
      exact h.not_mem (by simpa using hforeign c hsign) hc
    simp only [List.mem_cons, List.not_mem_nil, or_false, not_or] at hne
    simp [Url.isAuthorityEnd, hne]

/-- The page of a host does not end with the host, but a host without a pattern accepts it. -/
theorem EndsAnchored.accepts_page {filter : NetworkFilter} {name : String} (h : filter.EndsAnchored)
    (hname : filter.hostname = some name) (hpattern : filter.pattern = "") :
    let url := String.ofList (Url.Parts.ofHost (isHost_of_isHostname (h.host name hname))).text
    filter.accepts (.build none url none .other) filter.regex?.join = .ok true ∧
      ¬filter.MatchesToEnd url.toList := by
  intro url
  have hhost := h.host name hname
  have hlocated : Url.locate? url.toList = some ⟨"http://".toList, name.toList, ['/']⟩ := by
    rw [String.toList_ofList]
    exact (Url.Parts.ofHost (isHost_of_isHostname hhost)).locate?_text
  have hascii : Domain.IsAscii (Text.lower name.toList) :=
    Domain.isAscii_lower.2 fun c hc => (isHostChar_plain (hhost.chars c hc)).1
  have hrequest : (Request.build none url none .other).hostname.toList = Text.lower name.toList :=
    Request.hostname_build hlocated none none .other
  constructor
  · rw [accepts, if_pos (h.anyKind _), h.anySource]
    change filter.acceptsUrl _ _ = _
    rw [acceptsUrl_bareHost h.plain hname hpattern, hrequest,
      Domain.isWithin_congr hascii (Text.lower_lower name.toList).symm, Domain.isWithin_iff hascii]
    exact ⟨hhost.lower.nonempty, [], _, rfl, rfl, .inl rfl⟩
  · rw [matchesToEnd_bareHost hname hpattern, hlocated]
    rintro ⟨location, ⟨⟩, hend⟩
    cases hend

end Page

/-- The anchor at the end of a line without options binds the pattern to the end of every address that
the filter matches, unless the pattern is empty after a host; then it binds nothing, and what the host
accepts need not end with it. -/
theorem rightAnchor_honoured_iff {line : String} {filter : NetworkFilter}
    (hparse : parse line = .ok filter) (hfree : IsOptionFree line.toList)
    (hregex : filter.isRegex = false) (hanchor : filter.has .rightAnchor = true) :
    ((∀ suffixes url source kind,
        filter.accepts (.build suffixes url source kind) filter.regex?.join = .ok true →
          filter.MatchesToEnd url.toList) ↔ filter.hostname = none ∨ filter.pattern ≠ "") ∧
      ∀ request regex, filter.accepts request regex = .ok true →
        (filter.MatchesToEnd request.url.toList ↔ (filter.pattern = "" →
          ∃ location, Url.locate? request.url.toList = some location ∧
            skipPort location.after = [])) := by
  have hfilter := endsAnchored_of_optionFree hparse hfree hregex hanchor
  refine ⟨⟨fun hall => ?_, fun hpattern suffixes url source kind haccepts => ?_⟩,
    fun request regex => hfilter.matchesToEnd_iff⟩
  · cases hname : filter.hostname with
    | none => exact .inl rfl
    | some name =>
      refine .inr fun hpattern => ?_
      obtain ⟨haccepts, hnot⟩ := hfilter.accepts_page hname hpattern
      exact hnot (hall none _ none .other haccepts)
  · have hne : filter.pattern ≠ "" := hpattern.elim hfilter.limited id
    exact (hfilter.matchesToEnd_iff haccepts).2 fun hempty => absurd hempty hne

/-- The filter of a line with a host and a bar at its end. -/
def anchoredFilter (line : String) (host pattern : String) : NetworkFilter :=
  ofParts line.toList .block (Flag.hostAnchor.set.union Flag.rightAnchor.set) {} (some host) pattern

theorem rightAnchor_honoured_iff_script :
    parse "||Ads.com/b.js|" = .ok (anchoredFilter "||Ads.com/b.js|" "ads.com" "/b.js") ∧
      IsOptionFree "||Ads.com/b.js|".toList ∧
      (anchoredFilter "||Ads.com/b.js|" "ads.com" "/b.js").accepts
        (.build none "https://x.ads.com:80/B.js" none .script) none = .ok true ∧
      (anchoredFilter "||Ads.com/b.js|" "ads.com" "/b.js").MatchesToEnd
        "https://x.ads.com:80/B.js".toList := by
  have hparse : parse "||Ads.com/b.js|" =
      .ok (anchoredFilter "||Ads.com/b.js|" "ads.com" "/b.js") := by rfl
  have hfree : IsOptionFree "||Ads.com/b.js|".toList := by rfl
  have haccepts : (anchoredFilter "||Ads.com/b.js|" "ads.com" "/b.js").accepts
      (.build none "https://x.ads.com:80/B.js" none .script) none = .ok true := by rfl
  obtain ⟨⟨-, hhonoured⟩, -⟩ := rightAnchor_honoured_iff hparse hfree (by rfl) (by rfl)
  exact ⟨hparse, hfree, haccepts, hhonoured (.inr (by decide)) none _ none .script haccepts⟩

/-- A host with a bar at its end matches an address that goes on with a path. -/
theorem bare_host_ignores_anchor :
    parse "||a.com|" = .ok (anchoredFilter "||a.com|" "a.com" "") ∧
      IsOptionFree "||a.com|".toList ∧
      (anchoredFilter "||a.com|" "a.com" "").isRegex = false ∧
      (anchoredFilter "||a.com|" "a.com" "").has .rightAnchor = true ∧
      (anchoredFilter "||a.com|" "a.com" "").accepts
        (.build none "https://a.com/path" none .script) none = .ok true ∧
      ¬(anchoredFilter "||a.com|" "a.com" "").MatchesToEnd "https://a.com/path".toList := by
  refine ⟨by rfl, by rfl, by rfl, by rfl, by rfl, ?_⟩
  rw [matchesToEnd_bareHost rfl rfl]
  rintro ⟨location, hlocated, hend⟩
  have hpath : Url.locate? "https://a.com/path".toList =
      some ⟨"https://".toList, "a.com".toList, "/path".toList⟩ := by decide +kernel
  obtain rfl := Option.some.inj (hpath.symm.trans hlocated)
  exact absurd hend (by decide +kernel)

end NetworkFilter

end ContentFilter
