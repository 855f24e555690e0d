import ContentFilter.Proofs.Filter.AddressPrefix
import ContentFilter.Proofs.Matching.Response
import ContentFilter.Proofs.Text.Lower

/-! The case of letters in the address of a request. Without regular expressions and filters that ask for the
case, a request in lower case finds the same filters: its host is looked up in lower case anyway, the address is
cut at signs that are no letters, and patterns are compared up to case. -/

namespace ContentFilter

open Text (lower)

namespace Url

theorem isAuthorityEnd_toLower (c : Char) : isAuthorityEnd c.toLower = isAuthorityEnd c := by
  rw [isAuthorityEnd, Text.beq_toLower (by decide), Text.beq_toLower (by decide), Text.beq_toLower (by decide),
    isAuthorityEnd]

theorem scheme?_eq (url : List Char) : scheme? url =
    (Text.cut? [':'] url).bind fun (scheme, rest) =>
      match ['/', '/'].isPrefixOf? rest with
      | some rest => some (scheme ++ [':', '/', '/'], rest)
      | none => if Text.equalFold scheme "data".toList then some (scheme ++ [':'], rest) else none := by
  rw [scheme?]
  cases Text.cut? [':'] url with
  | none => rfl
  | some sides =>
    obtain ⟨scheme, rest⟩ := sides
    rw [Option.bind_some]
    split
    · next heq =>
      cases heq
      rfl
    · next hnot heq =>
      cases heq
      have hnone : ['/', '/'].isPrefixOf? rest = none := by
        rw [Text.isPrefixOf?_eq_none]
        rintro ⟨more, rfl⟩
        exact hnot more rfl
      dsimp only
      rw [hnone]
    · next heq => cases heq

theorem scheme?_lower (url : List Char) :
    scheme? (lower url) = (scheme? url).map fun (scheme, rest) => (lower scheme, lower rest) := by
  have hslashes : ∀ c ∈ ['/', '/'], c.isAlpha = false :=
    List.forall_mem_cons.2 ⟨by decide, List.forall_mem_singleton.2 (by decide)⟩
  rw [scheme?_eq, scheme?_eq, Text.cut?_lower (by decide)]
  cases Text.cut? [':'] url with
  | none => rfl
  | some sides =>
    obtain ⟨scheme, rest⟩ := sides
    simp only [Option.map_some, Option.bind_some, Text.equalFold_lower]
    rw [Text.isPrefixOf?_lower hslashes]
    cases ['/', '/'].isPrefixOf? rest with
    | some rest => simp [lower]
    | none =>
      simp only [Option.map_none]
      split
      · simp [lower]
      · rfl

theorem splitHost_lower (place : List Char) :
    splitHost (lower place) = (lower (splitHost place).1, lower (splitHost place).2) := by
  have hcolon (c : Char) : (c.toLower != ':') = (c != ':') := by
    rw [bne, Text.beq_toLower (by decide), bne]
  rw [splitHost, splitHost, Text.head?_lower_beq (by decide), Text.cut?_lower (by decide)]
  split
  · cases Text.cut? [']'] place with
    | none => rfl
    | some sides => simp [lower]
  · rw [Text.takeWhile_lower hcolon, Text.dropWhile_lower hcolon]

/-- The same cuts of the address in lower case. -/
def Location.lower (location : Location) : Location :=
  ⟨Text.lower location.before, Text.lower location.host, Text.lower location.after⟩

theorem locate?_lower (url : List Char) : locate? (lower url) = (locate? url).map Location.lower := by
  have hend (c : Char) : (!isAuthorityEnd c.toLower) = !isAuthorityEnd c := by rw [isAuthorityEnd_toLower]
  have htake := @Text.takeWhile_lower (!isAuthorityEnd ·) hend
  have hdrop := @Text.dropWhile_lower (!isAuthorityEnd ·) hend
  rw [locate?, locate?, scheme?_lower]
  cases scheme? url with
  | none => rfl
  | some sides =>
    obtain ⟨scheme, rest⟩ := sides
    simp only [Option.map_some, htake, hdrop]
    generalize rest.takeWhile (!isAuthorityEnd ·) = authority
    rw [Text.cutLast?_lower (by decide)]
    cases Text.cutLast? ['@'] authority with
    | none =>
      simp only [Option.map_none, splitHost_lower, Text.isEmpty_lower]
      split
      · rfl
      · simp [Location.lower]
    | some sides =>
      simp only [Option.map_some, splitHost_lower, Text.isEmpty_lower]
      split
      · rfl
      · simp [Location.lower, lower]

theorem hostName_lower (url : List Char) : hostName (lower url) = hostName url := by
  rw [hostName, host?, locate?_lower, hostName, host?]
  cases locate? url with
  | none => rfl
  | some location => exact Text.lower_lower location.host

end Url

namespace Glob

variable {mode : Mode}

theorem forall_byte {p : UInt8 → Prop} (h : ∀ n < 256, p (UInt8.ofNat n)) (b : UInt8) : p b := by
  have hb := h b.toNat b.toNat_lt
  rwa [UInt8.ofNat_toNat] at hb

theorem isSeparator_lowerByte (b : UInt8) : Url.isSeparator (lowerByte b) = Url.isSeparator b :=
  forall_byte (p := fun b => Url.isSeparator (lowerByte b) = Url.isSeparator b) (by decide +kernel) b

theorem lowerByte_lowerByte (b : UInt8) : lowerByte (lowerByte b) = lowerByte b :=
  forall_byte (p := fun b => lowerByte (lowerByte b) = lowerByte b) (by decide +kernel) b

theorem lowerByte_of_lt (b : UInt8) : 0x7F < b.toNat → lowerByte b = b :=
  forall_byte (p := fun b => 0x7F < b.toNat → lowerByte b = b) (by decide +kernel) b

theorem encodeChar_toLower (c : Char) :
    String.utf8EncodeChar c.toLower = (String.utf8EncodeChar c).map lowerByte := by
  by_cases hc : c.toNat ≤ 0x7F
  · have hlower : c.toLower.toNat ≤ 0x7F := by
      rcases Domain.toLower_cases c with h | h
      · rwa [h]
      · omega
    rw [Text.Utf8.encodeChar_ascii hlower, Text.Utf8.encodeChar_ascii hc, List.map_singleton,
      lowerByte_ofNat (by omega)]
  · have hsame : c.toLower = c := (Domain.toLower_cases c).resolve_right (by omega)
    have hhigh := Text.Utf8.lt_of_mem_encodeChar (Nat.not_le.1 hc)
    rw [hsame, List.map_congr_left fun b hb => lowerByte_of_lt b (hhigh b hb), List.map_id']

/-- The bytes of other characters than ASCII letters are not in the way of lower case. -/
theorem encode_lower (s : List Char) : Text.Utf8.encode (lower s) = (Text.Utf8.encode s).map lowerByte := by
  induction s with
  | nil => rfl
  | cons c s ih =>
    have hcons : lower (c :: s) = c.toLower :: lower s := rfl
    rw [hcons, Text.Utf8.encode_cons, Text.Utf8.encode_cons, List.map_append, ih, encodeChar_toLower]

theorem accepts_lowerByte (hfold : mode.caseSensitive = false) (c b : UInt8) :
    accepts mode c (lowerByte b) = accepts mode c b := by
  rw [accepts, isSeparator_lowerByte, accepts]
  simp only [Mode.sameByte, hfold, lowerByte_lowerByte, Bool.false_eq_true, if_false]

theorem fits_lower (hfold : mode.caseSensitive = false) (pattern text : List UInt8) :
    Fits mode pattern (text.map lowerByte) ↔ Fits mode pattern text := by
  induction pattern generalizing text with
  | nil => rw [fits_nil, fits_nil, List.map_eq_nil_iff]
  | cons c pattern ih =>
    by_cases hstar : c = star
    · rw [hstar, fits_star, fits_star]
      constructor
      · rintro ⟨after, hafter, hfits⟩
        obtain ⟨left, hleft, rfl⟩ := List.suffix_map_iff.1 hafter
        exact ⟨left, hleft, (ih left).1 hfits⟩
      · rintro ⟨left, hleft, hfits⟩
        exact ⟨left.map lowerByte, hleft.map lowerByte, (ih left).2 hfits⟩
    · cases text with
      | nil => exact Iff.rfl
      | cons b text =>
        rw [List.map_cons, fits_single_cons hstar, fits_single_cons hstar, accepts_lowerByte hfold, ih]

theorem isMatch_lower (hfold : mode.caseSensitive = false) (pattern text : List UInt8) :
    isMatch mode pattern (text.map lowerByte) = isMatch mode pattern text := by
  rw [Bool.eq_iff_iff, isMatch_iff, isMatch_iff, fits_lower hfold]

theorem isMatchInside_lower (hfold : mode.caseSensitive = false) (pattern text : List UInt8) :
    isMatchInside mode pattern (text.map lowerByte) = isMatchInside mode pattern text := by
  induction text with
  | nil => rfl
  | cons b text ih =>
    rw [List.map_cons, isMatchInside, ← List.map_cons, isMatch_lower hfold, ih, isMatchInside]

theorem isMatch_encode_lower (hfold : mode.caseSensitive = false) (pattern : List UInt8) (s : List Char) :
    isMatch mode pattern (Text.Utf8.encode (lower s)) = isMatch mode pattern (Text.Utf8.encode s) := by
  rw [encode_lower, isMatch_lower hfold]

theorem isMatchInside_encode_lower (hfold : mode.caseSensitive = false) (pattern : List UInt8)
    (s : List Char) : isMatchInside mode pattern (Text.Utf8.encode (lower s)) =
      isMatchInside mode pattern (Text.Utf8.encode s) := by
  rw [encode_lower, isMatchInside_lower hfold]

end Glob

namespace NetworkFilter

theorem skipPort_lower (after : List Char) : skipPort (lower after) = lower (skipPort after) := by
  cases after with
  | nil => rfl
  | cons c after =>
    by_cases hcolon : c = ':'
    · subst hcolon
      exact Text.dropWhile_lower Text.isDigit_toLower after
    · have hlower : (lower (c :: after)).head? ≠ some ':' := by
        simpa [lower, Text.toLower_eq_iff] using hcolon
      rw [skipPort_of_head? hlower, skipPort_of_head? (by simpa using hcolon)]

end NetworkFilter

/-- The same request with its address in lower case. -/
def Request.lower (request : Request) : Request :=
  { request with url := String.ofList (Text.lower request.url.toList) }

/-- Requests whose addresses differ in the case of letters only are one request in lower case. -/
theorem Request.build_lower {url other : String} (h : Text.equalFold url.toList other.toList = true)
    (suffixes : Option Domain.PublicSuffixes) (source : Option String) (kind : Kind) :
    (build suffixes url source kind).lower = (build suffixes other source kind).lower := by
  have hurl : Text.lower url.toList = Text.lower other.toList := beq_iff_eq.1 h
  have hname : Url.hostName url.toList = Url.hostName other.toList := by
    rw [← Url.hostName_lower, hurl, Url.hostName_lower]
  rw [build, build, hname, Request.lower, Request.lower]
  dsimp only
  rw [hurl]

namespace NetworkFilter

variable {filter : NetworkFilter}

/-- Every anchor cuts the address at a place that has nothing to do with case. -/
theorem acceptsUrl_lower (hplain : filter.isRegex = false) (hfold : filter.has .matchCase = false)
    (request : Request) (regex : Option Regex) :
    filter.acceptsUrl request.lower regex = filter.acceptsUrl request regex := by
  have hmode : filter.mode.caseSensitive = false := hfold
  unfold acceptsUrl
  simp only [hplain, Bool.false_eq_true, if_false, Request.lower, String.toList_ofList, Url.locate?_lower,
    Glob.isMatch_encode_lower hmode, Glob.isMatchInside_encode_lower hmode]
  cases Url.locate? request.url.toList with
  | none => rfl
  | some location =>
    -- past the host and from each of its labels on, the rest of the address is the same in lower case
    simp only [Option.map_some, Url.Location.lower, skipPort_lower, Domain.lineage_lower, List.any_map,
      Function.comp_def, ← Text.lower_append, Glob.isMatch_encode_lower hmode]

theorem accepts_lower (hplain : filter.isRegex = false) (hfold : filter.has .matchCase = false)
    (request : Request) (regex : Option Regex) :
    filter.accepts request.lower regex = filter.accepts request regex := by
  rw [accepts, acceptsUrl_lower hplain hfold]
  rfl

end NetworkFilter

namespace FilterList

/-- No filter of the list is a regular expression or asks for the case of letters. -/
def FoldsCase (list : FilterList) : Prop :=
  ∀ filter ∈ list.network, filter.isRegex = false ∧ filter.has .matchCase = false

theorem foldsCase_parse {name text : String} (h : ∀ filter ∈ (ParsedList.parse text).network,
    filter.isRegex = false ∧ filter.has .matchCase = false) : (parse name text).1.FoldsCase :=
  fun filter hfilter => h filter (NetworkFilter.optimize_subset _ hfilter)

theorem collectNetwork_lower {list : FilterList} (h : list.FoldsCase) (request : Request) :
    list.collectNetwork request.lower = list.collectNetwork request := by
  rw [collectNetwork, collectNetwork]
  -- the host is the same, so the look-up is, and only the tests of what it brings see the address
  refine congrArg (· >>= _) (filterM_congr fun compiled hcompiled => ?_)
  rw [list.networkIndex_eq, (NetworkIndex.lookup_build_perm _ _).mem_iff] at hcompiled
  obtain ⟨filter, hfilter, hone⟩ := List.mem_filterMap.1 (List.mem_filter.1 hcompiled).1
  obtain rfl := NetworkFilter.eq_of_compiled? hone
  obtain ⟨hplain, hfold⟩ := h filter hfilter
  exact NetworkFilter.accepts_lower hplain hfold request _

end FilterList

namespace Engine

theorem collectNetwork_lower {engine : Engine} (h : ∀ list ∈ engine.lists, list.FoldsCase)
    (request : Request) : engine.collectNetwork request.lower = engine.collectNetwork request := by
  have hlists : engine.lists.mapM (·.collectNetwork request.lower) =
      engine.lists.mapM (·.collectNetwork request) :=
    mapM_eq_of_forall₂ (List.forall₂_same.2 fun list hlist =>
      FilterList.collectNetwork_lower (h list hlist) request)
  rw [collectNetwork, hlists, collectNetwork]

theorem matchRequest_lower {engine : Engine} (h : ∀ list ∈ engine.lists, list.FoldsCase)
    (request : Request) : engine.matchRequest request.lower = engine.matchRequest request := by
  rw [matchRequest, collectNetwork_lower h, matchRequest]

/-- Without regular expressions and filters that ask for the case, nothing comes through by other letters: two
addresses that are equal up to case have the same answer, and between hosts of single bytes they have one. -/
theorem matchRequest_anyCase {engine : Engine} (hlists : ∀ list ∈ engine.lists, list.FoldsCase)
    {url other : String} (h : Text.equalFold url.toList other.toList = true)
    (suffixes : Option Domain.PublicSuffixes) (source : Option String) (kind : Kind) :
    engine.matchRequest (.build suffixes url source kind) =
        engine.matchRequest (.build suffixes other source kind) ∧
      ((Request.build suffixes url source kind).HasAsciiHosts →
        ∃ found, engine.matchRequest (.build suffixes url source kind) = .ok found ∧
          engine.matchRequest (.build suffixes other source kind) = .ok found) := by
  have hsame : engine.matchRequest (.build suffixes url source kind) =
      engine.matchRequest (.build suffixes other source kind) := by
    rw [← matchRequest_lower hlists, Request.build_lower h, matchRequest_lower hlists]
  refine ⟨hsame, fun hascii => ?_⟩
  obtain ⟨found, hfound⟩ :=
    exists_matchRequest_iff.2 (exists_collectNetwork_of_ascii engine hascii.hostname hascii.source)
  exact ⟨found, hfound, hsame ▸ hfound⟩

def bannerText : String := "||Ads.site.com/Banner^$third-party\n@@.gif|\n|https://cdn."

theorem matchRequest_anyCase_shouted :
    (∀ list ∈ (compile 0 "ads" bannerText).1.lists, list.FoldsCase) ∧
      Text.equalFold "HTTPS://ADS.Site.com:80/BANNER".toList "https://ads.site.COM:80/banner".toList = true ∧
      ∃ found, (compile 0 "ads" bannerText).1.matchRequest
          (.build none "HTTPS://ADS.Site.com:80/BANNER" (some "http://Page.org/") .image) = .ok found ∧
        (compile 0 "ads" bannerText).1.matchRequest
          (.build none "https://ads.site.COM:80/banner" (some "http://Page.org/") .image) = .ok found := by
  have hlists : ∀ list ∈ (compile 0 "ads" bannerText).1.lists, list.FoldsCase := by
    refine List.forall_mem_singleton.2 (FilterList.foldsCase_parse ?_)
    decide +kernel
  have hsame : Text.equalFold "HTTPS://ADS.Site.com:80/BANNER".toList
      "https://ads.site.COM:80/banner".toList = true := by
    decide +kernel
  have hascii : (Request.build none "HTTPS://ADS.Site.com:80/BANNER" (some "http://Page.org/")
      .image).HasAsciiHosts := ⟨by decide +kernel, by decide +kernel⟩
  have hanswer := matchRequest_anyCase hlists hsame none (some "http://Page.org/") .image
  exact ⟨hlists, hsame, hanswer.2 hascii⟩

end Engine

end ContentFilter
