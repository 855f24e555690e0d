import ContentFilter.Proofs.Filter.Reading
import ContentFilter.Proofs.Url.Assembly
import Mathlib.Data.Bool.AllAny

/-! Filters of the form `||host^`: how their lines read, and the addresses that their pattern fits. -/

namespace ContentFilter

open Domain (IsHostname)

namespace NetworkFilter

/-- The line of a filter for a host and what lies under it. -/
def hostLine (host : List Char) : List Char := '|' :: '|' :: (host ++ ['^'])

/-- The pattern of such a line: the end of the host or a separator has to follow. -/
def hostPattern (host : List Char) : Pattern :=
  ⟨Flag.hostAnchor.set, some (String.ofList (Text.lower host)), "^"⟩

theorem toList_caret (name : String) : ("||" ++ name ++ "^").toList = hostLine name.toList := by
  rw [String.toList_append, String.toList_append, hostLine]
  rfl

variable {host : List Char}

/-- A host at the start of a pattern ends where one of these signs follows. -/
theorem splitHost?_append (h : IsHostname host) {rest : List Char}
    (hrest : ∀ c, rest.head? = some c → c ∈ ['^', '/', ':', '?']) :
    splitHost? (host ++ rest) = some (String.ofList (Text.lower host), rest) := by
  have hends : ∀ c, rest.head? = some c → isHostChar c = false := by
    intro c hc
    have hall : ∀ c ∈ ['^', '/', ':', '?'], (!isHostChar c) = true := List.all_eq_true.1 (by decide)
    simpa using hall c (hrest c hc)
  unfold splitHost?
  extract_lets name taken after endsHost
  have hname : name = host ++ rest := by
    simp only [name]
    split
    · next tail hpoint =>
      obtain ⟨c, front, hhost⟩ := List.exists_cons_of_ne_nil h.nonempty
      rw [hhost, List.cons_append] at hpoint
      refine absurd ?_ h.first
      rw [hhost, (List.cons.inj hpoint).1]
      rfl
    · rfl
  have htaken : taken = host := by
    rw [← Text.takeWhile_append_of_head? h.chars hends, ← hname]
  have hafter : after = rest := by
    rw [← Text.dropWhile_append_of_head? h.chars hends, ← hname]
  have hfollows : endsHost = true := by
    simp only [endsHost, hafter]
    cases rest with
    | nil => rfl
    | cons c rest => simpa [or_assoc] using hrest c rfl
  rw [if_pos hfollows, htaken, h.normalize?, hafter]
  rfl

/-- A pattern that begins with a host keeps the rest as it is, if it has no anchor at its end. -/
theorem parsePattern_append (h : IsHostname host) {rest : List Char}
    (hrest : ∀ c, rest.head? = some c → c ∈ ['^', '/', ':', '?']) (hlast : rest.getLast? ≠ some '|') :
    parsePattern ('|' :: '|' :: (host ++ rest)) =
      .ok ⟨Flag.hostAnchor.set, some (String.ofList (Text.lower host)), String.ofList rest⟩ := by
  have hbar : Text.dropEnd? "|" (host ++ rest) = none := by
    cases hend : Text.dropEnd? "|" (host ++ rest) with
    | none => rfl
    | some before =>
      have hbars : "|".toList = ['|'] := rfl
      have hend := congrArg List.getLast? (Text.dropEnd?_eq_some.1 hend)
      rw [hbars, List.getLast?_concat, List.getLast?_append] at hend
      cases hrest : rest.getLast? with
      | none =>
        rw [hrest, Option.none_or] at hend
        exact absurd (List.mem_of_getLast? hend) (h.not_mem (by decide))
      | some c =>
        rw [hrest, Option.some_or] at hend
        exact absurd (hrest.trans hend) hlast
  have hstar : (host ++ rest).dropWhile (· == '*') = host ++ rest := by
    cases hhost : host with
    | nil => exact absurd hhost h.nonempty
    | cons c front =>
      have hc : c ≠ '*' := by
        rintro rfl
        exact h.not_mem (by decide) (hhost ▸ List.mem_cons_self)
      simp [hc]
  simp [parsePattern, hbar, hstar, splitHost?_append h hrest]

theorem parsePattern_hostLine (h : IsHostname host) :
    parsePattern (hostLine host) = .ok (hostPattern host) :=
  parsePattern_append h (by rintro c ⟨⟩; decide) (by decide)

theorem hostLine_plain (h : IsHostname host) :
    '$' ∉ hostLine host ∧ ∀ c ∈ hostLine host, Text.isBlank c = false := by
  unfold hostLine
  constructor
  · simp only [List.mem_cons, List.mem_append, not_or]
    exact ⟨by decide, by decide, h.not_mem (by decide), by decide, List.not_mem_nil⟩
  · intro c hc
    simp only [List.mem_cons, List.mem_append] at hc
    rcases hc with rfl | rfl | hc | rfl | hc
    · decide
    · decide
    · exact h.not_blank c hc
    · decide
    · cases hc

theorem splitOptions_hostLine (h : IsHostname host) :
    splitOptions (hostLine host) = (hostLine host, none) :=
  splitOptions_of_not_mem (hostLine_plain h).1

/-- A line without blanks and options is read as its pattern. -/
theorem readsAs_of_parsePattern {line : List Char} {pattern : Pattern} (hdollar : '$' ∉ line)
    (hblank : ∀ c ∈ line, Text.isBlank c = false) (hpattern : parsePattern line = .ok pattern) :
    ReadsAs line {} pattern := by
  have hnone : line.any Text.isBlank = false := by
    rw [List.any_eq_false]
    intro c hc
    rw [hblank c hc]
    decide
  constructor
  · rw [splitOptions_of_not_mem hdollar]
    rfl
  · rw [splitOptions_of_not_mem hdollar, Text.trim_eq_self hblank, readPattern, hnone]
    exact hpattern

theorem readsAs_hostLine (h : IsHostname host) : ReadsAs (hostLine host) {} (hostPattern host) :=
  readsAs_of_parsePattern (hostLine_plain h).1 (hostLine_plain h).2 (parsePattern_hostLine h)

end NetworkFilter

theorem Request.hostname_build {url : String} {location : Url.Location}
    (hlocated : Url.locate? url.toList = some location) (suffixes : Option Domain.PublicSuffixes)
    (source : Option String) (kind : Kind) :
    (Request.build suffixes url source kind).hostname.toList = Text.lower location.host := by
  rw [Request.build, String.toList_ofList, Url.hostName, Url.host?, hlocated]
  rfl

namespace Glob

/-- A caret fits the end of a text and any separator. -/
theorem isMatch_caret {mode : Mode} (hmode : mode.toEnd = false) {text : List UInt8}
    (h : ∀ b, text.head? = some b → Url.isSeparator b = true) : isMatch mode [caret] text = true := by
  have hstar : caret ≠ star := by decide
  have hempty (rest : List UInt8) : compare mode [] rest = .matched := by
    rw [compare, hmode]
    rfl
  have hcompare : compare mode [caret] text = .matched := by
    cases text with
    | nil => rw [compare, if_neg hstar, if_pos rfl, hempty]
    | cons b text => rw [compare, if_neg hstar, if_pos rfl, h b rfl, if_pos rfl, hempty]
  rw [isMatch, hcompare]

end Glob

namespace NetworkFilter

open Url (begun)

variable {parts : Url.Parts}

theorem skipPort_of_head? {after : List Char} (h : after.head? ≠ some ':') : skipPort after = after := by
  rw [skipPort]
  rintro rest rfl
  exact h rfl

theorem skipPort_suffix (after : List Char) : skipPort after <:+ after := by
  unfold skipPort
  split
  · next rest => exact (List.dropWhile_suffix Char.isDigit).trans (List.suffix_cons ':' rest)
  · exact List.suffix_rfl

/-- The number of a port is skipped, and a separator or the end follows it. -/
theorem head?_skipPort (hport : ∀ c ∈ parts.port.getD [], c.isDigit = true) :
    ∀ b, (Text.Utf8.encode (skipPort (begun ':' parts.port ++ parts.tail))).head? = some b →
      Url.isSeparator b = true := by
  have htail : skipPort (begun ':' parts.port ++ parts.tail) = parts.tail := by
    have hfirst : ∀ c, parts.tail.head? = some c → c ≠ ':' ∧ c.isDigit = false := by
      intro c hc
      have hend := parts.tail_outside c hc
      simp only [Url.isAuthorityEnd, Bool.or_eq_true, beq_iff_eq] at hend
      rcases hend with (rfl | rfl) | rfl <;> decide
    cases hsome : parts.port with
    | none =>
      exact skipPort_of_head? fun hcolon => (hfirst ':' hcolon).1 rfl
    | some port =>
      rw [hsome] at hport
      exact Text.dropWhile_append_of_head? hport fun c hc => (hfirst c hc).2
  rw [htail]
  intro b hb
  cases hchars : parts.tail with
  | nil =>
    rw [hchars] at hb
    cases hb
  | cons c rest =>
    have hend := parts.tail_outside c (by rw [hchars]; rfl)
    rw [hchars, Text.Utf8.encode_cons] at hb
    simp only [Url.isAuthorityEnd, Bool.or_eq_true, beq_iff_eq] at hend
    rcases hend with (rfl | rfl) | rfl
    all_goals
      cases hb
      decide

/-- A filter with a host and no anchor at its end fits what follows the host and its port. -/
theorem acceptsUrl_host {filter : NetworkFilter} {request : Request} {regex : Option Regex}
    {location : Url.Location} (hflags : filter.flags = Flag.hostAnchor.set)
    (hhost : filter.hostname = some (String.ofList (Text.lower host)))
    (hlocated : Url.locate? request.url.toList = some location) :
    filter.acceptsUrl request regex =
      (Domain.isWithin request.hostname.toList (Text.lower host)).map
        (· && ((Text.Utf8.encode filter.pattern.toList).isEmpty ||
          Glob.isMatch ⟨false, false⟩ (Text.Utf8.encode filter.pattern.toList)
            (Text.Utf8.encode (skipPort location.after)))) := by
  have hregex : filter.isRegex = false := by
    rw [isRegex, has, hflags]
    decide
  have hmode : filter.mode = ⟨false, false⟩ := by
    rw [mode, has, has, hflags]
    rfl
  rw [acceptsUrl, hregex, hhost, hlocated, hmode]
  dsimp only
  rw [String.toList_ofList]
  cases Domain.isWithin request.hostname.toList (Text.lower host) with
  | error fault => rfl
  | ok found =>
    cases found with
    | false => rfl
    | true =>
      cases (Text.Utf8.encode filter.pattern.toList).isEmpty <;> rfl

/-- A filter for a host fits the addresses of that host, whatever follows it. -/
theorem acceptsUrl_hostPattern {filter : NetworkFilter} {request : Request} {regex : Option Regex}
    (hflags : filter.flags = Flag.hostAnchor.set)
    (hhost : filter.hostname = some (String.ofList (Text.lower host))) (hpattern : filter.pattern = "^")
    (hurl : request.url.toList = parts.text) (hport : ∀ c ∈ parts.port.getD [], c.isDigit = true) :
    filter.acceptsUrl request regex =
      Domain.isWithin request.hostname.toList (Text.lower host) := by
  have hcaret : Text.Utf8.encode filter.pattern.toList = [Glob.caret] := by
    rw [hpattern]
    decide
  rw [acceptsUrl_host hflags hhost (hurl ▸ parts.locate?_text), hcaret,
    Glob.isMatch_caret rfl (head?_skipPort hport)]
  cases Domain.isWithin request.hostname.toList (Text.lower host) with
  | error fault => rfl
  | ok found => cases found <;> rfl

/-- A line after a bar is no exception. -/
theorem parseChars_bar {text : List Char} (htrim : Text.trim ('|' :: text) = '|' :: text) :
    parseChars ('|' :: text) = ofLine ('|' :: text) .block ('|' :: text) := by
  rw [parseChars_eq, htrim]
  rfl

/-- The filter of a host and what follows it. -/
def hostFilter (host rest : List Char) : NetworkFilter :=
  ofParts ('|' :: '|' :: (host ++ rest)) .block Flag.hostAnchor.set {}
    (some (String.ofList (Text.lower host))) (String.ofList rest)

/-- Options without flags leave a pattern with a host as it is. -/
theorem assemble_hostAnchor {action : Action} {options : FilterOptions}
    (hoptions : optionFlags action options = .empty) (raw : List Char) (name text : String) :
    assemble raw action options ⟨Flag.hostAnchor.set, some name, text⟩ =
      .ok (ofParts raw action Flag.hostAnchor.set options (some name) text) := by
  have hflags : BitSet.empty.union Flag.hostAnchor.set = Flag.hostAnchor.set := by decide
  rw [assemble, hoptions, hflags, if_neg (by simp [isUnrestricted])]

theorem accepts_hostFilter {rest : List Char} {url : String} {location : Url.Location}
    (hlocated : Url.locate? url.toList = some location) (suffixes : Option Domain.PublicSuffixes)
    (source : Option String) (kind : Kind) (regex : Option Regex) :
    (hostFilter host rest).accepts (.build suffixes url source kind) regex =
      (Domain.isWithin (Text.lower location.host) (Text.lower host)).map
        (· && ((Text.Utf8.encode rest).isEmpty || Glob.isMatch ⟨false, false⟩ (Text.Utf8.encode rest)
          (Text.Utf8.encode (skipPort location.after)))) := by
  have hkind : (hostFilter host rest).acceptsKind (.build suffixes url source kind) = true := rfl
  have haccepts : (hostFilter host rest).accepts (.build suffixes url source kind) regex =
      (hostFilter host rest).acceptsUrl (.build suffixes url source kind) regex := by
    rw [accepts, if_pos hkind]
    rfl
  have hpattern : (hostFilter host rest).pattern.toList = rest := String.toList_ofList
  have hbuilt : Url.locate? (Request.build suffixes url source kind).url.toList = some location := hlocated
  rw [haccepts, acceptsUrl_host rfl rfl hbuilt, Request.hostname_build hlocated, hpattern]

end NetworkFilter

namespace Filter

open NetworkFilter (hostFilter)

theorem parseChars_bar {text : List Char} (htrim : Text.trim ('|' :: text) = '|' :: text)
    (hmark : '#' ∉ text) (hdollar : '$' ∉ text) : parseChars ('|' :: text) =
      (NetworkFilter.parseChars ('|' :: text)).map fun filter => some (.network filter) := by
  have hcomment : isComment ('|' :: text) = false := by
    simp only [isComment, htrim]
    rfl
  have hcontains {part : String} (h : '#' ∈ part.toList ∨ '$' ∈ part.toList) :
      Text.contains part ('|' :: text) = false := by
    rw [Bool.eq_false_iff, ne_eq, Text.contains_iff]
    intro hpart
    rcases h with h | h
    · exact hmark ((List.mem_cons.1 (hpart.subset h)).resolve_left (by decide))
    · exact hdollar ((List.mem_cons.1 (hpart.subset h)).resolve_left (by decide))
  have htype : typeOf ('|' :: text) = .network := by
    simp (disch := decide) [typeOf, hcontains]
  simp only [parseChars, htrim, hcomment, htype]
  rfl

/-- A line that begins with a host and has neither options nor an anchor at its end is the filter of
the host and what follows it. -/
theorem parseChars_hostFilter {host rest : List Char} (h : Domain.IsHostname host)
    (hrest : ∀ c, rest.head? = some c → c ∈ ['^', '/', ':', '?'])
    (hplain : ∀ c ∈ rest, Text.isBlank c = false ∧ c ∉ ['|', '$', '#']) :
    parseChars ('|' :: '|' :: (host ++ rest)) = .ok (some (.network (hostFilter host rest))) := by
  have hblank : ∀ c ∈ '|' :: '|' :: (host ++ rest), Text.isBlank c = false := by
    intro c hc
    simp only [List.mem_cons, List.mem_append] at hc
    rcases hc with rfl | rfl | hc | hc
    · decide
    · decide
    · exact h.not_blank c hc
    · exact (hplain c hc).1
  have habsent {c : Char} (hc : c ∈ ['$', '#']) : c ∉ '|' :: (host ++ rest) := by
    have hhost : c ∉ host := by
      have hforeign : ∀ c ∈ ['$', '#'], (!NetworkFilter.isHostChar c) = true :=
        List.all_eq_true.1 (by decide)
      exact h.not_mem (by simpa using hforeign c hc)
    have hbar : c ≠ '|' := by
      rintro rfl
      exact absurd hc (by decide)
    have hrest : c ∉ rest := fun hmem => (hplain c hmem).2 (List.mem_cons_of_mem _ hc)
    simp [hhost, hbar, hrest]
  have hdollar : '$' ∉ '|' :: '|' :: (host ++ rest) :=
    List.not_mem_cons_of_ne_of_not_mem (by decide) (habsent (by decide))
  have hlast : rest.getLast? ≠ some '|' := by
    intro hlast
    exact (hplain '|' (List.mem_of_getLast? hlast)).2 (by decide)
  have hreads := NetworkFilter.readsAs_of_parsePattern hdollar hblank
    (NetworkFilter.parsePattern_append h hrest hlast)
  rw [parseChars_bar (Text.trim_eq_self hblank) (habsent (by decide)) (habsent (by decide)),
    NetworkFilter.parseChars_bar (Text.trim_eq_self hblank), hreads.ofLine_eq,
    NetworkFilter.assemble_hostAnchor rfl]
  rfl

end Filter

end ContentFilter

/-! The filter `||domain^` is for a domain and everything under it: which addresses it matches is a
question about their hosts alone. -/

namespace ContentFilter

open Domain (IsAscii IsHostname)

namespace Domain

/-- The host is the domain or lies under it, letter case aside. -/
def InSubtree (domain host : List Char) : Prop :=
  Text.lower host = Text.lower domain ∨
    ∃ labels, Text.lower host = labels ++ '.' :: Text.lower domain

variable {domain host : List Char}

theorem mem_lineage_lower (hne : domain ≠ []) :
    Text.lower domain ∈ lineage (Text.lower host) ↔ InSubtree domain host := by
  have hlower : Text.lower domain ≠ [] := by simpa [Text.lower] using hne
  rw [mem_lineage, and_iff_right hlower, InSubtree]

end Domain

namespace NetworkFilter

variable {domain : List Char} {parts : Url.Parts}

/-- The host decides alone: its port is skipped, and the caret fits what begins the rest. -/
theorem accepts_hostFilter_caret (hdomain : domain ≠ []) (hascii : IsAscii parts.host)
    (hport : ∀ c ∈ parts.port.getD [], c.isDigit = true) (suffixes : Option Domain.PublicSuffixes)
    (source : Option String) (kind : Kind) (regex : Option Regex) :
    ∃ matched, (hostFilter domain ['^']).accepts
        (.build suffixes (String.ofList parts.text) source kind) regex = .ok matched ∧
      (matched = true ↔ Domain.InSubtree domain parts.host) := by
  have hlocated := parts.locate?_text
  rw [← String.toList_ofList (l := parts.text)] at hlocated
  have hcaret : Text.Utf8.encode ['^'] = [Glob.caret] := by decide
  refine ⟨_, (accepts_hostFilter hlocated suffixes source kind regex).trans ?_,
    decide_eq_true_iff.trans (Domain.mem_lineage_lower hdomain)⟩
  rw [Domain.isWithin_lower hascii, hcaret, Glob.isMatch_caret rfl (head?_skipPort hport)]
  simp [Except.map]

end NetworkFilter

namespace Filter

open NetworkFilter (hostLine hostFilter)

variable {domain : List Char}

section Accepted

variable (haccepted : (Domain.normalize? domain).isSome = true)
include haccepted

theorem hostLine_signs {sign : Char} (hblank : Text.isBlank sign = false)
    (hsign : NetworkFilter.isHostChar sign = false) (hne : sign ∉ ['|', '^']) :
    sign ∉ '|' :: (domain ++ ['^']) := by
  have hdomain : sign ∉ domain := by
    intro hmem
    rcases Domain.isBlank_or_isHostChar haccepted hmem with h | h
    · rw [hblank] at h
      cases h
    · rw [hsign] at h
      cases h
  simp only [List.mem_cons, List.not_mem_nil, or_false, not_or] at hne
  simp [hdomain, hne]

/-- The blanks that are cut off around a name make its line none of a filter. -/
theorem parseChars_hostLine_of_blank {c : Char} (hc : c ∈ domain) (hblank : Text.isBlank c = true) :
    parseChars (hostLine domain) = .error .invalidPattern := by
  have htrim : Text.trim (hostLine domain) = hostLine domain := by
    apply Text.trim_of_ends
    · rintro first ⟨⟩
      decide
    · intro last hlast
      have hend : (hostLine domain).getLast? = some '^' :=
        List.getLast?_concat (l := '|' :: '|' :: domain)
      cases hend.symm.trans hlast
      decide
  have hdollar : '$' ∉ '|' :: (domain ++ ['^']) :=
    hostLine_signs haccepted (by decide) (by decide) (by decide)
  have hmark : '#' ∉ '|' :: (domain ++ ['^']) :=
    hostLine_signs haccepted (by decide) (by decide) (by decide)
  have hany : (hostLine domain).any Text.isBlank = true := by
    rw [List.any_eq_true]
    exact ⟨c, by simp [hostLine, hc], hblank⟩
  have hline : NetworkFilter.readPattern (hostLine domain) = .error .invalidPattern := by
    rw [NetworkFilter.readPattern, if_pos hany, hostLine,
      NetworkFilter.hostsLine?_cons (by decide) (by decide)]
  rw [hostLine] at htrim hline ⊢
  rw [parseChars_bar htrim hmark hdollar, NetworkFilter.parseChars_bar htrim, NetworkFilter.ofLine,
    NetworkFilter.splitOptions_of_not_mem (List.not_mem_cons_of_ne_of_not_mem (by decide) hdollar),
    htrim, hline]
  rfl

theorem parseChars_hostLine (hfirst : domain.head? ≠ some '.') (hlast : domain.getLast? ≠ some '.')
    (hblank : ∀ c ∈ domain, Text.isBlank c = false) :
    parseChars (hostLine domain) = .ok (some (.network (hostFilter domain ['^']))) := by
  have hhost := Domain.isHostname_of_isSome haccepted hblank hfirst hlast
  refine parseChars_hostFilter hhost (by rintro c ⟨⟩; decide) fun c hc => ?_
  obtain rfl := List.mem_singleton.1 hc
  decide

end Accepted

/-- A filter for a domain matches a request just when the host of its address is the domain or ends
with a point and the domain, letter case aside, whatever else the address holds and whatever is loaded
by whom. A name that is accepted has such a filter unless there are blanks around it. -/
theorem hostLine_matches_subtree (domain : String)
    (haccepted : (Domain.normalize? domain.toList).isSome = true)
    (hfirst : domain.toList.head? ≠ some '.') (hlast : domain.toList.getLast? ≠ some '.') :
    ((∃ filter, parse ("||" ++ domain ++ "^") = .ok (some (.network filter))) ↔
        ∀ c ∈ domain.toList, Text.isBlank c = false) ∧
      ∀ filter, parse ("||" ++ domain ++ "^") = .ok (some (.network filter)) →
        ∀ parts : Url.Parts, IsAscii parts.host → (∀ c ∈ parts.port.getD [], c.isDigit = true) →
          ∀ suffixes source kind, ∃ matched,
            filter.accepts (.build suffixes (String.ofList parts.text) source kind)
              filter.regex?.join = .ok matched ∧
            (matched = true ↔ Domain.InSubtree domain.toList parts.host) := by
  have hne : domain.toList ≠ [] := by
    intro hempty
    rw [hempty] at haccepted
    cases haccepted
  rw [parse, NetworkFilter.toList_caret]
  by_cases hblank : ∀ c ∈ domain.toList, Text.isBlank c = false
  · rw [parseChars_hostLine haccepted hfirst hlast hblank]
    refine ⟨iff_of_true ⟨_, rfl⟩ hblank, ?_⟩
    rintro filter ⟨⟩ parts hascii hport suffixes source kind
    exact NetworkFilter.accepts_hostFilter_caret hne hascii hport suffixes source kind _
  · obtain ⟨c, hc, hcblank⟩ : ∃ c ∈ domain.toList, Text.isBlank c = true := by simpa using hblank
    rw [parseChars_hostLine_of_blank haccepted hc hcblank]
    exact ⟨iff_of_false nofun hblank, nofun⟩

def portedUrl : Url.Parts where
  scheme := "wss".toList
  user := some "ann:1@work".toList
  host := "cdn.ADS.com".toList
  port := some "81".toList
  tail := "?ad#1".toList
  scheme_plain := by decide
  user_inside := List.all_iff_forall_prop.1 (by decide)
  isHost := .name (by decide) (by decide) (List.all_iff_forall_prop.1 (by decide))
  port_inside := List.all_iff_forall_prop.1 (by decide)
  tail_outside := by
    rintro c ⟨⟩
    decide

theorem hostLine_matches_subtree_ported :
    (Domain.normalize? "Ads.com".toList).isSome = true ∧
      ∃ filter, parse ("||" ++ "Ads.com" ++ "^") = .ok (some (.network filter)) ∧
        filter.accepts
          (.build none (String.ofList portedUrl.text) (some "https://site.com/") .script)
          filter.regex?.join = .ok true := by
  have haccepted : (Domain.normalize? "Ads.com".toList).isSome = true := by decide
  obtain ⟨hexists, hmatches⟩ :=
    hostLine_matches_subtree "Ads.com" haccepted (by decide) (by decide)
  obtain ⟨filter, hfilter⟩ := hexists.2 (List.all_iff_forall_prop.1 (by decide))
  obtain ⟨matched, hmatched, hiff⟩ := hmatches filter hfilter portedUrl (by decide)
    (List.all_iff_forall_prop.1 (by decide)) none (some "https://site.com/") .script
  have hsubtree : Domain.InSubtree "Ads.com".toList portedUrl.host := .inr ⟨"cdn".toList, by decide⟩
  rw [hiff.2 hsubtree] at hmatched
  exact ⟨haccepted, filter, hfilter, hmatched⟩

theorem isHost_spaced : Url.IsHost " a.com".toList :=
  .name (by decide) (by decide) (List.all_iff_forall_prop.1 (by decide))

/-- A name is accepted with blanks around it, but its line is refused, even for an address with the
same host. -/
theorem spaced_domain_is_refused :
    (Domain.normalize? " a.com".toList).isSome = true ∧ " a.com".toList.head? ≠ some '.' ∧
      " a.com".toList.getLast? ≠ some '.' ∧
      (Url.Parts.ofHost isHost_spaced).text = "http:// a.com/".toList ∧
      Domain.InSubtree " a.com".toList (Url.Parts.ofHost isHost_spaced).host ∧
      parse ("||" ++ " a.com" ++ "^") = .error .invalidPattern := by
  have haccepted : (Domain.normalize? " a.com".toList).isSome = true := by decide
  refine ⟨haccepted, by decide, by decide, by decide, .inl rfl, ?_⟩
  rw [parse, NetworkFilter.toList_caret]
  exact parseChars_hostLine_of_blank haccepted List.mem_cons_self (by decide)

end Filter

end ContentFilter
