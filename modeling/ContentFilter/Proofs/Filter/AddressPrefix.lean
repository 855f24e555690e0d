import ContentFilter.Proofs.Filter.Glob
import ContentFilter.Proofs.Filter.HostFilter
import ContentFilter.Proofs.Text.Utf8
import Mathlib.Data.Bool.AllAny

/-! The start of an address from its host on, taken as a pattern: it fits the address it was taken from
as long as it does not reach into the port. -/

namespace ContentFilter

open Domain (IsAscii IsHostname)

namespace Url

namespace Location

/-- The first bytes of an address from its host on. -/
def fromHost (location : Location) (url : List Char) (k : ℕ) : List Char :=
  (url.take k).drop location.range.1

/-- What of them follows the host. -/
def afterHost (location : Location) (url : List Char) (k : ℕ) : List Char :=
  (url.take k).drop location.range.2

end Location

variable {url : List Char} {location : Location} {k : ℕ}

theorem fromHost_eq (hascii : IsAscii url) (hlocated : locate? url = some location)
    (hk : location.range.2 ≤ k) :
    location.fromHost url k = location.host ++ location.afterHost url k ∧
      location.afterHost url k <+: location.after := by
  obtain ⟨before, host, after⟩ := location
  obtain rfl := locate?_append hlocated
  have hbefore : IsAscii before := fun c hc => hascii c (by simp [hc])
  have hhost : IsAscii host := fun c hc => hascii c (by simp [hc])
  simp only [Location.fromHost, Location.afterHost, Location.range, hbefore.size, hhost.size] at hk ⊢
  obtain ⟨n, rfl⟩ := Nat.exists_eq_add_of_le hk
  have hkept : (before ++ (host ++ after)).take (before.length + host.length + n) =
      before ++ (host ++ after.take n) := by
    rw [Nat.add_assoc, List.take_length_add_append, List.take_length_add_append]
  rw [hkept, List.drop_left, List.drop_length_add_append, List.drop_left]
  exact ⟨rfl, List.take_prefix n after⟩

end Url

namespace Glob

theorem lowerByte_ofNat {c : Char} (h : c.toNat < 128) :
    lowerByte (UInt8.ofNat c.toNat) = UInt8.ofNat c.toLower.toNat := by
  have hall : ∀ n < 128,
      lowerByte (UInt8.ofNat n) = UInt8.ofNat (Char.ofNat n).toLower.toNat := by
    decide +kernel
  have hthis := hall c.toNat h
  rwa [Char.ofNat_toNat] at hthis

/-- Letters are compared as bytes just as they are as characters. -/
theorem sameByte_iff {c d : Char} (hc : c.toNat < 128) (hd : d.toNat < 128) :
    (⟨false, false⟩ : Mode).sameByte (UInt8.ofNat c.toNat) (UInt8.ofNat d.toNat) = true ↔
      c.toLower = d.toLower := by
  have hsmall {c : Char} (h : c.toNat < 128) : c.toLower.toNat < 256 := by
    rcases Domain.toLower_cases c with hlow | ⟨-, hhigh, hsum⟩
    · rw [hlow]
      omega
    · omega
  have hsame : (⟨false, false⟩ : Mode).sameByte (UInt8.ofNat c.toNat) (UInt8.ofNat d.toNat) =
      (UInt8.ofNat c.toLower.toNat == UInt8.ofNat d.toLower.toNat) := by
    rw [← lowerByte_ofNat hc, ← lowerByte_ofNat hd]
    rfl
  rw [hsame, Text.Utf8.beq_eq_decide, decide_eq_true_eq, Text.Utf8.toNat_ofNat_of_lt (hsmall hc),
    Text.Utf8.toNat_ofNat_of_lt (hsmall hd), Char.toNat_inj]

theorem encode_ascii_cons {c : Char} (h : c.toNat < 128) (s : List Char) :
    Text.Utf8.encode (c :: s) = UInt8.ofNat c.toNat :: Text.Utf8.encode s := by
  rw [Text.Utf8.encode_cons, Text.Utf8.encodeChar_ascii (by omega), List.singleton_append]

/-- A pattern without stars and carets fits the texts that begin with it, letter case aside. -/
theorem isMatch_plain {pattern text : List Char} (hpattern : IsAscii pattern) (htext : IsAscii text)
    (hplain : ∀ c ∈ pattern, c ∉ ['*', '^']) :
    isMatch ⟨false, false⟩ (Text.Utf8.encode pattern) (Text.Utf8.encode text) = true ↔
      Text.lower pattern <+: Text.lower text := by
  rw [isMatch_iff]
  induction pattern generalizing text with
  | nil => simp [fits_nil, Text.lower]
  | cons c pattern ih =>
    have hc : c.toNat < 128 := hpattern c List.mem_cons_self
    have hsign {sign : Char} (hsign : sign.toNat < 128) (hne : c ≠ sign) :
        UInt8.ofNat c.toNat ≠ UInt8.ofNat sign.toNat := by
      intro heq
      have hnat := congrArg UInt8.toNat heq
      rw [Text.Utf8.toNat_ofNat_of_lt (by omega), Text.Utf8.toNat_ofNat_of_lt (by omega)] at hnat
      exact hne (Char.toNat_inj.1 hnat)
    obtain ⟨hstar, hcaret⟩ : c ≠ '*' ∧ c ≠ '^' := by simpa using hplain c List.mem_cons_self
    have hnotstar : UInt8.ofNat c.toNat ≠ star := hsign (by decide) hstar
    have hnotcaret : UInt8.ofNat c.toNat ≠ caret := hsign (by decide) hcaret
    rw [encode_ascii_cons hc]
    cases text with
    | nil => simp [fits_single_nil hnotstar, hnotcaret, Text.lower]
    | cons d text =>
      have hd : d.toNat < 128 := htext d List.mem_cons_self
      have hrest := ih (fun c hc => hpattern c (List.mem_cons_of_mem _ hc))
        (fun d hd => htext d (List.mem_cons_of_mem _ hd))
        (fun c hc => hplain c (List.mem_cons_of_mem _ hc))
      have hlower : Text.lower (c :: pattern) <+: Text.lower (d :: text) ↔
          c.toLower = d.toLower ∧ Text.lower pattern <+: Text.lower text := List.cons_prefix_cons
      rw [encode_ascii_cons hd, fits_single_cons hnotstar, accepts, if_neg hnotcaret,
        sameByte_iff hd hc, hrest, hlower, eq_comm]

end Glob

namespace NetworkFilter

variable {rest after : List Char}

theorem head?_of_lower_prefix {text : List Char} (h : Text.lower rest <+: Text.lower text)
    (hcolon : rest.head? = some ':') : text.head? = some ':' := by
  obtain ⟨rest, rfl⟩ := List.head?_eq_some_iff.1 hcolon
  cases text with
  | nil => simp [Text.lower] at h
  | cons c text =>
    have hc : (':' : Char).toLower = c.toLower := (List.cons_prefix_cons.1 h).1
    have hpoint : c.toLower = ':' := hc.symm
    rw [(Text.toLower_eq_iff (by decide)).1 hpoint]
    rfl

/-- What begins the text after a host fits it, unless it begins with the port that is skipped there. -/
theorem lower_prefix_skipPort_iff (h : rest <+: after) :
    Text.lower rest <+: Text.lower (skipPort after) ↔
      (rest.head? = some ':' → Text.lower rest <+: Text.lower (skipPort after)) := by
  refine ⟨fun hbegins _ => hbegins, fun hport => ?_⟩
  by_cases hcolon : rest.head? = some ':'
  · exact hport hcolon
  · cases rest with
    | nil => exact List.nil_prefix
    | cons c rest =>
      have hafter : after.head? ≠ some ':' := by
        obtain ⟨more, rfl⟩ := h
        exact hcolon
      rw [skipPort_of_head? hafter]
      exact List.IsPrefix.map Char.toLower h

theorem accepts_hostFilter_prefix {url : String} {location : Url.Location}
    (hascii : IsAscii url.toList) (hlocated : Url.locate? url.toList = some location)
    (hbegins : rest <+: location.after) (hplain : ∀ c ∈ rest, c ∉ ['*', '^'])
    (hne : location.host ≠ []) (suffixes : Option Domain.PublicSuffixes) (source : Option String)
    (kind : Kind) (regex : Option Regex) :
    ∃ matched, (hostFilter location.host rest).accepts (.build suffixes url source kind) regex =
        .ok matched ∧
      (matched = true ↔
        (rest.head? = some ':' → Text.lower rest <+: Text.lower (skipPort location.after))) := by
  have hpieces := Url.locate?_append hlocated
  have hhost : IsAscii location.host := by
    intro c hc
    exact hascii c (by simp [hpieces, hc])
  have hafter : IsAscii location.after := by
    intro c hc
    exact hascii c (by simp [hpieces, hc])
  have hrest : IsAscii rest := fun c hc => hafter c (hbegins.subset hc)
  have hskipped : IsAscii (skipPort location.after) := fun c hc =>
    hafter c ((skipPort_suffix location.after).subset hc)
  have hwithin : Domain.isWithin (Text.lower location.host) (Text.lower location.host) = .ok true := by
    have hself : Text.lower location.host ∈ Domain.lineage (Text.lower location.host) :=
      Domain.mem_lineage.2 ⟨by simpa [Text.lower] using hne, .inl rfl⟩
    rw [Domain.isWithin_lower hhost, decide_eq_true hself]
  have haccepts : (hostFilter location.host rest).accepts (.build suffixes url source kind) regex = _ :=
    accepts_hostFilter hlocated suffixes source kind regex
  rw [hwithin] at haccepts
  refine ⟨_, haccepts, ?_⟩
  dsimp only
  rw [← lower_prefix_skipPort_iff hbegins, Bool.true_and, Bool.or_eq_true,
    Glob.isMatch_plain hrest hskipped hplain, or_iff_right_iff_imp]
  intro hempty
  rw [List.isEmpty_iff, Text.Utf8.encode_eq_nil] at hempty
  rw [hempty]
  exact List.nil_prefix

end NetworkFilter

namespace Filter

open NetworkFilter (hostFilter skipPort)

/-- The start of an address from its host on is read as a filter, and whether it matches the address
depends on the port alone: either the filter does not reach beyond the host with a colon, or what
follows the port of the address begins with that colon and the rest of the filter once more. -/
theorem addressPrefix_matches_iff (url : String) (location : Url.Location) (k : ℕ)
    (hascii : IsAscii url.toList) (hlocated : Url.locate? url.toList = some location)
    (hhost : IsHostname location.host) (hk : location.range.2 ≤ k)
    (hplain : ∀ c ∈ location.fromHost url.toList k,
      Text.isBlank c = false ∧ c ∉ ['*', '^', '|', '$', '#'])
    (hrest : ∀ c, (location.afterHost url.toList k).head? = some c → c ∈ [':', '/', '?']) :
    ∃ filter, parse ("||" ++ String.ofList (location.fromHost url.toList k)) =
        .ok (some (.network filter)) ∧
      ∀ suffixes source kind, ∃ matched,
        filter.accepts (.build suffixes url source kind) filter.regex?.join = .ok matched ∧
        (matched = true ↔ ((location.afterHost url.toList k).head? = some ':' →
          Text.lower (location.afterHost url.toList k) <+: Text.lower (skipPort location.after))) ∧
        ((skipPort location.after).head? ≠ some ':' →
          (matched = true ↔ (location.afterHost url.toList k).head? ≠ some ':')) := by
  obtain ⟨hpiece, hbegins⟩ := Url.fromHost_eq hascii hlocated hk
  rw [hpiece] at hplain ⊢
  generalize location.afterHost url.toList k = rest at hplain hrest hbegins ⊢
  have hsigns : ∀ c ∈ rest, Text.isBlank c = false ∧ c ∉ ['*', '^'] ∧ c ∉ ['|', '$', '#'] := by
    intro c hc
    simpa [not_or, and_assoc] using hplain c (List.mem_append_right _ hc)
  have hline : ("||" ++ String.ofList (location.host ++ rest)).toList =
      '|' :: '|' :: (location.host ++ rest) := by
    rw [String.toList_append, String.toList_ofList (l := location.host ++ rest)]
    rfl
  refine ⟨hostFilter location.host rest, ?_, fun suffixes source kind => ?_⟩
  · rw [parse, hline]
    apply parseChars_hostFilter hhost
    · intro c hc
      have hends : [':', '/', '?'] ⊆ ['^', '/', ':', '?'] := by decide
      exact hends (hrest c hc)
    · exact fun c hc => ⟨(hsigns c hc).1, (hsigns c hc).2.2⟩
  · obtain ⟨matched, hmatched, hiff⟩ := NetworkFilter.accepts_hostFilter_prefix hascii hlocated hbegins
      (fun c hc => (hsigns c hc).2.1) hhost.nonempty suffixes source kind _
    refine ⟨matched, hmatched, hiff, fun hport => hiff.trans ?_⟩
    constructor
    · exact fun himp hcolon => hport (NetworkFilter.head?_of_lower_prefix (himp hcolon) hcolon)
    · exact fun hnot hcolon => absurd hcolon hnot

theorem addressPrefix_matches_iff_path :
    Url.locate? "https://CDN.Site.com/Lib/ad.js".toList =
        some ⟨"https://".toList, "CDN.Site.com".toList, "/Lib/ad.js".toList⟩ ∧
      ∃ filter, parse ("||" ++ String.ofList "CDN.Site.com/Lib".toList) =
          .ok (some (.network filter)) ∧
        filter.accepts
          (.build none "https://CDN.Site.com/Lib/ad.js" (some "https://site.com/") .script)
          filter.regex?.join = .ok true := by
  have hlocated : Url.locate? "https://CDN.Site.com/Lib/ad.js".toList =
      some ⟨"https://".toList, "CDN.Site.com".toList, "/Lib/ad.js".toList⟩ := by decide +kernel
  obtain ⟨filter, hfilter, hmatches⟩ := addressPrefix_matches_iff "https://CDN.Site.com/Lib/ad.js"
    _ 24 (by decide +kernel) hlocated (Domain.isHostname_iff.2 (by decide +kernel))
    (by decide +kernel) (List.all_iff_forall_prop.1 (by decide +kernel)) (by rintro c ⟨⟩; decide)
  obtain ⟨matched, hmatched, -, hiff⟩ := hmatches none (some "https://site.com/") .script
  have hport : matched = true := (hiff (by decide +kernel)).2 (by decide +kernel)
  rw [hport] at hmatched
  exact ⟨hlocated, filter, hfilter, hmatched⟩

/-- The start of an address up to its path does not match the address when it holds a port. -/
theorem ported_prefix_fails :
    Domain.IsAscii "http://a.com:8080/x".toList ∧
      Url.locate? "http://a.com:8080/x".toList =
        some ⟨"http://".toList, "a.com".toList, ":8080/x".toList⟩ ∧
      IsHostname "a.com".toList ∧
      Url.Location.fromHost ⟨"http://".toList, "a.com".toList, ":8080/x".toList⟩
        "http://a.com:8080/x".toList 19 = "a.com:8080/x".toList ∧
      ∃ filter, parse "||a.com:8080/x" = .ok (some (.network filter)) ∧
        filter.accepts (.build none "http://a.com:8080/x" none .script) filter.regex?.join =
          .ok false := by
  refine ⟨by decide, by decide, Domain.isHostname_iff.2 (by decide), by decide,
    hostFilter "a.com".toList ":8080/x".toList, by rfl, by rfl⟩

end Filter

end ContentFilter
