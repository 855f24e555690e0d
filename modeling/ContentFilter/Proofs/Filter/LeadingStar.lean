import ContentFilter.Proofs.Domain.Hostname
import ContentFilter.Proofs.Filter.Glob
import ContentFilter.Proofs.Filter.HostFilter
import ContentFilter.Proofs.Text.Utf8
import Mathlib.Data.Bool.AllAny

/-! A star at the start of a pattern is dropped when its line is read. That loses nothing but a match
at the end of an address while the pattern may begin anywhere; after an anchor the star was what let it
begin elsewhere. -/

namespace ContentFilter

namespace Glob

variable {mode : Mode}

open Text.Utf8 (encode)

theorem eq_star_of_mem {c : Char} (h : star ∈ String.utf8EncodeChar c) : c = '*' :=
  Text.Utf8.eq_of_mem_encodeChar (d := '*') (by decide) h

theorem eq_caret_of_mem {c : Char} (h : caret ∈ String.utf8EncodeChar c) : c = '^' :=
  Text.Utf8.eq_of_mem_encodeChar (d := '^') (by decide) h

theorem fits_end_encode_iff {p : List Char} :
    Fits mode (encode p) [] ↔ ∀ c ∈ p, c ∈ ['*', '^'] := by
  have hchar (c : Char) :
      (∀ b ∈ String.utf8EncodeChar c, b = star ∨ b = caret) ↔ c ∈ ['*', '^'] := by
    constructor
    · intro hall
      have hne : String.utf8EncodeChar c ≠ [] := String.utf8EncodeChar_ne_nil
      obtain ⟨b, hb⟩ := List.exists_mem_of_ne_nil _ hne
      rcases hall b hb with rfl | rfl
      · exact List.mem_pair.2 (.inl (eq_star_of_mem hb))
      · exact List.mem_pair.2 (.inr (eq_caret_of_mem hb))
    · intro hc
      rcases List.mem_pair.1 hc with rfl | rfl
      · exact List.forall_mem_singleton.2 (.inl rfl)
      · exact List.forall_mem_singleton.2 (.inr rfl)
  rw [fits_end_iff, encode, List.forall_mem_flatMap]
  exact forall₂_congr fun c _ => hchar c

/-- Stars at the start of a pattern only move where it begins. -/
theorem exists_fits_dropWhile (p : List Char) (text : List UInt8) :
    (∃ after, after <:+ text ∧ Fits mode (encode (p.dropWhile (· == '*'))) after) ↔
      ∃ after, after <:+ text ∧ Fits mode (encode p) after := by
  induction p with
  | nil => rfl
  | cons c p ih =>
    by_cases hstar : c = '*'
    · have hbyte : encode ('*' :: p) = star :: encode p := rfl
      rw [hstar, List.dropWhile_cons_of_pos (by rfl), ih, hbyte]
      simp only [fits_star]
      constructor
      · rintro ⟨after, hafter, hfits⟩
        exact ⟨after, hafter, after, List.suffix_rfl, hfits⟩
      · rintro ⟨outer, houter, after, hafter, hfits⟩
        exact ⟨after, hafter.trans houter, hfits⟩
    · rw [List.dropWhile_cons_of_neg (by simpa using hstar)]

/-- No byte but a star accepts two different letters. -/
theorem exists_not_fits {c : Char} (hc : c ≠ '*') (p : List Char) :
    ∃ x ∈ ['a', 'b'], ∀ rest, ¬Fits ⟨false, false⟩ (encode (c :: p)) (encode (x :: rest)) := by
  have hne : String.utf8EncodeChar c ≠ [] := String.utf8EncodeChar_ne_nil
  obtain ⟨b, bytes, hbytes⟩ := List.exists_cons_of_ne_nil hne
  have hstar : b ≠ star := by
    rintro rfl
    exact hc (eq_star_of_mem (by simp [hbytes]))
  have hrefused {x : Char} {byte : UInt8} (hx : String.utf8EncodeChar x = [byte])
      (haccepts : accepts ⟨false, false⟩ b byte = false) (rest : List Char) :
      ¬Fits ⟨false, false⟩ (encode (c :: p)) (encode (x :: rest)) := by
    rw [Text.Utf8.encode_cons, hbytes, Text.Utf8.encode_cons, hx, List.cons_append, List.cons_append,
      fits_single_cons hstar, haccepts]
    exact fun hfits => Bool.false_ne_true hfits.1
  cases hone : accepts ⟨false, false⟩ b 0x61 with
  | false => exact ⟨'a', by simp, hrefused (by decide) hone⟩
  | true =>
    refine ⟨'b', by simp, @hrefused 'b' 0x62 (by decide) ?_⟩
    unfold accepts at hone ⊢
    split_ifs at hone ⊢ with hcaret
    · revert hone
      decide
    · have hlower : lowerByte 0x61 = lowerByte b := beq_iff_eq.1 hone
      change (lowerByte 0x62 == lowerByte b) = false
      rw [← hlower]
      decide

end Glob

namespace NetworkFilter

open Text.Utf8 (encode)

theorem isHost_letter {x : Char} (hx : x ∈ ['a', 'b']) : Url.IsHost [x] := by
  rcases List.mem_pair.1 hx with rfl | rfl
  · exact .name (by decide) (by decide) (List.forall_mem_singleton.2 (by decide))
  · exact .name (by decide) (by decide) (List.forall_mem_singleton.2 (by decide))

/-- The address of a file of the site of one letter. -/
def letterPage {x : Char} (hx : x ∈ ['a', 'b']) (file : List Char) : Url.Parts where
  scheme := [x]
  user := none
  host := [x]
  port := none
  tail := '/' :: file
  scheme_plain := by rcases List.mem_pair.1 hx with rfl | rfl <;> decide
  user_inside := List.forall_mem_nil _
  isHost := isHost_letter hx
  port_inside := List.forall_mem_nil _
  tail_outside := by
    rintro c ⟨⟩
    decide

section LetterPage

variable {x : Char} (hx : x ∈ ['a', 'b'])
include hx

theorem locate?_letterPage (file : List Char) : Url.locate? (letterPage hx file).text =
    some ⟨[x, ':', '/', '/'], [x], '/' :: file⟩ :=
  (letterPage hx file).locate?_text

theorem suffix_letterPage (file : List Char) : encode file <:+ encode (letterPage hx file).text :=
  Text.Utf8.encode_suffix ⟨[x, ':', '/', '/', x, '/'], rfl⟩

theorem lineage_letter : Domain.lineage [x] = [[x]] := by
  rcases List.mem_pair.1 hx with rfl | rfl <;> decide

theorem lower_letter : Text.lower [x] = [x] := by
  rcases List.mem_pair.1 hx with rfl | rfl <;> decide

/-- A host of one letter lies within no other host. -/
theorem not_isWithin_letter {host : List Char} (hhost : Text.lower host ≠ [x]) :
    Domain.isWithin [x] host ≠ .ok true := by
  have hascii : Domain.IsAscii [x] := by rcases List.mem_pair.1 hx with rfl | rfl <;> decide
  rw [ne_eq, Domain.isWithin_iff hascii]
  rintro ⟨hne, before, ending, hletter, hsame, -⟩
  rcases List.append_eq_singleton_iff.1 hletter.symm with ⟨-, rfl⟩ | ⟨-, rfl⟩
  · exact hhost (hsame.symm.trans (lower_letter hx))
  · exact hne (List.map_eq_nil_iff.1 hsame.symm)

end LetterPage

/-- Where the signs before a pattern let it begin. -/
inductive Anchor where
  | free
  /-- One bar: at the start of the address. -/
  | address
  /-- Two bars: at a label of the host. -/
  | label
  deriving DecidableEq, Repr

namespace Anchor

def sign : Anchor → List Char
  | free => []
  | address => ['|']
  | label => ['|', '|']

def flags : Anchor → BitSet
  | free => .empty
  | address => Flag.leftAnchor.set
  | label => Flag.hostAnchor.set

/-- What is left of an address from a place on where the pattern may begin. -/
def Allows (anchor : Anchor) (url : List Char) (text : List UInt8) : Prop :=
  match anchor with
  | free => text <:+ encode url
  | address => text = encode url
  | label => ∃ location ∈ Url.locate? url, ∃ host ∈ Domain.lineage location.host,
      text = encode (host ++ location.after)

/-- The pattern fits the address from one of those places on. -/
def Matches (anchor : Anchor) (pattern url : List Char) : Prop :=
  ∃ text, anchor.Allows url text ∧ Glob.Fits ⟨false, false⟩ (encode pattern) text

/-- The address of the request is one that a line takes in whose pattern begins with no star. A pattern
that may begin anywhere begins before a byte, and one that begins with a host is compared with what
follows the host of the request. -/
def Takes (anchor : Anchor) (pattern : List Char) (request : Request) : Prop :=
  match anchor with
  | free => ∃ text, text <:+ encode request.url.toList ∧ text ≠ [] ∧
      Glob.Fits ⟨false, false⟩ (encode pattern) text
  | address => address.Matches pattern request.url.toList
  | label =>
    match splitHost? pattern with
    | none => label.Matches pattern request.url.toList
    | some (host, rest) =>
      Domain.isWithin request.hostname.toList host.toList = .ok true ∧
        (rest = [] ∨ ∃ location ∈ Url.locate? request.url.toList,
          Glob.Fits ⟨false, false⟩ (encode rest) (encode (skipPort location.after)))

/-- The host that a pattern begins with after two bars, and the rest. -/
def host? (anchor : Anchor) (pattern : List Char) : Option (String × List Char) :=
  if anchor = label then splitHost? pattern else none

/-- What is made of a pattern that begins with no star and ends with no bar. -/
def pattern (anchor : Anchor) (text : List Char) : Pattern :=
  match anchor.host? text with
  | some (host, rest) => ⟨anchor.flags, some host, String.ofList rest⟩
  | none => ⟨anchor.flags, none, String.ofList text⟩

variable {anchor : Anchor} {p url : List Char}

/-- The stars are dropped before the pattern is looked at. -/
theorem parsePattern_star (hbar : '|' ∉ p) : parsePattern (anchor.sign ++ '*' :: p) =
    .ok (anchor.pattern (p.dropWhile (· == '*'))) := by
  have hend : Text.dropEnd? "|" ('*' :: p) = none := by
    cases hdrop : Text.dropEnd? "|" ('*' :: p) with
    | none => rfl
    | some before =>
      have hbars : "|".toList = ['|'] := rfl
      have hmem : '|' ∈ '*' :: p := by
        rw [Text.dropEnd?_eq_some.1 hdrop, hbars]
        simp
      exact absurd ((List.mem_cons.1 hmem).resolve_left (by decide)) hbar
  have hfree : (BitSet.empty == Flag.hostAnchor.set) = false := by decide
  have haddress : (Flag.leftAnchor.set == Flag.hostAnchor.set) = false := by decide
  cases anchor with
  | free => simp [parsePattern, sign, pattern, host?, flags, hend, hfree]
  | address => simp [parsePattern, sign, pattern, host?, flags, hend, haddress]
  | label =>
    cases hhost : splitHost? (p.dropWhile (· == '*')) <;>
      simp [parsePattern, sign, pattern, host?, flags, hend, hhost]

/-- The filter of a line with a star before its pattern. -/
def filter (anchor : Anchor) (p : List Char) : NetworkFilter :=
  let pattern := anchor.pattern (p.dropWhile (· == '*'))
  ofParts (anchor.sign ++ '*' :: p) .block anchor.flags {} pattern.hostname pattern.text

theorem flags_pattern (anchor : Anchor) (text : List Char) :
    (anchor.pattern text).flags = anchor.flags := by
  unfold pattern
  split <;> rfl

theorem isUnrestricted_pattern (anchor : Anchor) (text : List Char) :
    isUnrestricted (anchor.pattern text) anchor.flags {} = decide (text = []) := by
  have hflags : anchor.flags.meets (Flag.genericHide.set.union Flag.elemHide.set) = false := by
    cases anchor <;> decide
  cases text with
  | nil => cases anchor <;> decide
  | cons c text =>
    cases hhost : anchor.host? (c :: text) with
    | none => simp [isUnrestricted, pattern, hhost]
    | some parts => simp [isUnrestricted, pattern, hhost]

theorem parseChars_star (hplain : ∀ c ∈ p, Text.isBlank c = false ∧ c ∉ ['$', '|']) :
    parseChars (anchor.sign ++ '*' :: p) =
      if p.dropWhile (· == '*') = [] then .error .invalidPattern else .ok (anchor.filter p) := by
  have hsign : ∀ c ∈ anchor.sign, c = '|' := by cases anchor <;> simp [sign]
  have hline : ∀ c ∈ anchor.sign ++ '*' :: p, Text.isBlank c = false ∧ c ≠ '$' := by
    intro c hc
    rcases List.mem_append.1 hc with hc | hc
    · rw [hsign c hc]
      decide
    rcases List.mem_cons.1 hc with rfl | hc
    · decide
    · refine ⟨(hplain c hc).1, ?_⟩
      rintro rfl
      exact (hplain '$' hc).2 (by decide)
  have hblank : ∀ c ∈ anchor.sign ++ '*' :: p, Text.isBlank c = false := fun c hc => (hline c hc).1
  have hdollar : '$' ∉ anchor.sign ++ '*' :: p := fun hmem => (hline '$' hmem).2 rfl
  have hbar : '|' ∉ p := fun hmem => (hplain '|' hmem).2 (by decide)
  have hfilled : (anchor.sign ++ '*' :: p).isEmpty = false := by cases anchor <;> rfl
  have haction : actionAndLine (anchor.sign ++ '*' :: p) = (.block, anchor.sign ++ '*' :: p) := by
    cases anchor <;> rfl
  have hempty : optionFlags .block {} = .empty := rfl
  have hflags : BitSet.empty.union anchor.flags = anchor.flags := by cases anchor <;> decide
  rw [parseChars_eq, Text.trim_eq_self hblank, hfilled, haction]
  dsimp only
  rw [(readsAs_of_parsePattern hdollar hblank (parsePattern_star hbar)).ofLine_eq, assemble, hempty,
    flags_pattern, hflags, isUnrestricted_pattern]
  simp only [Bool.false_eq_true, if_false, decide_eq_true_eq]
  rfl

section Matching

variable {request : Request} {regex : Option Regex} {rest after : List Char} {host : String}

theorem isRegex_filter (anchor : Anchor) (p : List Char) : (anchor.filter p).isRegex = false := by
  have hflags : (anchor.filter p).flags = anchor.flags := rfl
  rw [isRegex, has, hflags]
  cases anchor <;> decide

theorem mode_filter (anchor : Anchor) (p : List Char) :
    (anchor.filter p).mode = ⟨false, false⟩ := by
  have hflags : (anchor.filter p).flags = anchor.flags := rfl
  rw [mode, has, has, hflags]
  cases anchor <;> rfl

/-- Without a host the pattern begins at one of the places that the anchor allows, but not at the end of
the address. -/
theorem acceptsUrl_filter (hrest : p.dropWhile (· == '*') = rest) (hempty : rest ≠ [])
    (hhost : anchor.host? rest = none) :
    (anchor.filter p).acceptsUrl request regex = .ok true ↔ anchor.Takes rest request := by
  have hflags : (anchor.filter p).flags = anchor.flags := rfl
  have hname : (anchor.filter p).hostname = none := by
    simp only [filter, ofParts, hrest, pattern, hhost]
  have htext : (anchor.filter p).pattern.toList = rest := by
    simp only [filter, ofParts, hrest, pattern, hhost, String.toList_ofList]
  rw [acceptsUrl, isRegex_filter, hname, mode_filter, htext, has, has, hflags]
  cases anchor with
  | free =>
    change Except.ok _ = Except.ok true ↔ _
    rw [Except.ok.injEq, Bool.or_eq_true, List.isEmpty_iff, Text.Utf8.encode_eq_nil,
      Glob.isMatchInside_iff, or_iff_right hempty]
    rfl
  | address =>
    change Except.ok _ = Except.ok true ↔ _
    rw [Except.ok.injEq, Glob.isMatch_iff]
    simp [Takes, Matches, Allows]
  | label =>
    have hsplit : splitHost? rest = none := hhost
    change Except.ok _ = Except.ok true ↔ _
    rw [Except.ok.injEq, Takes, hsplit]
    dsimp only
    cases hlocated : Url.locate? request.url.toList with
    | none => simp [Matches, Allows, hlocated]
    | some location => simp [Matches, Allows, hlocated, Glob.isMatch_iff]

/-- A pattern with a host is compared with what follows the host of the request. -/
theorem acceptsUrl_filter_host (hrest : p.dropWhile (· == '*') = rest)
    (hhost : anchor.host? rest = some (host, after)) :
    (anchor.filter p).acceptsUrl request regex = .ok true ↔ anchor.Takes rest request := by
  have hlabel : anchor = label := by
    by_contra hother
    rw [host?, if_neg hother] at hhost
    cases hhost
  subst hlabel
  have hsplit : splitHost? rest = some (host, after) := hhost
  have hname : (label.filter p).hostname = some host := by
    simp only [filter, ofParts, hrest, pattern, hhost]
  have htext : (label.filter p).pattern.toList = after := by
    simp only [filter, ofParts, hrest, pattern, hhost, String.toList_ofList]
  rw [acceptsUrl, isRegex_filter, hname, mode_filter, htext, Takes, hsplit]
  dsimp only
  cases Domain.isWithin request.hostname.toList host.toList with
  | error fault => simp [bind, Except.bind]
  | ok within =>
    cases within with
    | false => simp [bind, Except.bind, pure, Except.pure]
    | true =>
      cases after with
      | nil => simp [bind, Except.bind, pure, Except.pure]
      | cons c after =>
        have hfull : (encode (c :: after)).isEmpty = false := by
          rw [List.isEmpty_eq_false_iff, ne_eq, Text.Utf8.encode_eq_nil]
          exact List.cons_ne_nil c after
        simp only [bind, Except.bind, pure, Except.pure, if_true, hfull, Bool.false_eq_true, if_false]
        cases Url.locate? request.url.toList with
        | none => simp
        | some location => simp [Glob.isMatch_iff]

/-- The filter takes in what the rest of its pattern takes in. -/
theorem accepts_filter_iff (hpattern : p.dropWhile (· == '*') ≠ []) :
    (anchor.filter p).accepts request regex = .ok true ↔
      anchor.Takes (p.dropWhile (· == '*')) request := by
  have haccepts : (anchor.filter p).accepts request regex =
      (anchor.filter p).acceptsUrl request regex := by
    have hkind : (anchor.filter p).acceptsKind request = true := rfl
    rw [accepts, if_pos hkind]
    rfl
  rw [haccepts]
  cases hhost : anchor.host? (p.dropWhile (· == '*')) with
  | none => exact acceptsUrl_filter rfl hpattern hhost
  | some parts => exact acceptsUrl_filter_host rfl hhost

end Matching

theorem matches_star_iff : anchor.Matches ('*' :: p) url ↔ ∃ text, anchor.Allows url text ∧
    ∃ after, after <:+ text ∧ Glob.Fits ⟨false, false⟩ (encode (p.dropWhile (· == '*'))) after := by
  have hbyte : encode ('*' :: p) = Glob.star :: encode p := rfl
  simp only [Matches, hbyte, Glob.fits_star, Glob.exists_fits_dropWhile]

theorem forall_mem_dropWhile :
    (∀ c ∈ p.dropWhile (· == '*'), c ∈ ['*', '^']) ↔ ∀ c ∈ p, c ∈ ['*', '^'] := by
  induction p with
  | nil => rfl
  | cons c p ih =>
    by_cases hstar : c = '*'
    · rw [hstar, List.dropWhile_cons_of_pos (by rfl), ih, List.forall_mem_cons,
        and_iff_right (by simp)]
    · rw [List.dropWhile_cons_of_neg (by simpa using hstar)]

/-- What may begin anywhere may begin after any run, so only the end of the address is lost. -/
theorem free_matches_star_iff (request : Request) : free.Matches ('*' :: p) request.url.toList ↔
    free.Takes (p.dropWhile (· == '*')) request ∨ ∀ c ∈ p, c ∈ ['*', '^'] := by
  rw [matches_star_iff, ← forall_mem_dropWhile, ← Glob.fits_end_encode_iff]
  constructor
  · rintro ⟨text, htext, after, hafter, hfits⟩
    by_cases hend : after = []
    · exact .inr (hend ▸ hfits)
    · exact .inl ⟨after, hafter.trans htext, hend, hfits⟩
  · rintro (⟨text, htext, -, hfits⟩ | hfits)
    · exact ⟨text, htext, text, List.suffix_rfl, hfits⟩
    · exact ⟨[], List.nil_suffix, [], List.suffix_rfl, hfits⟩

theorem head_ne_star {c : Char} {rest : List Char} (h : p.dropWhile (· == '*') = c :: rest) :
    c ≠ '*' := by
  have hhead := List.head?_dropWhile_not (· == '*') p
  simpa [h] using hhead

/-- The pattern stands in the address of a file that is named like it. -/
theorem matches_letterPage {x : Char} (hx : x ∈ ['a', 'b']) :
    anchor.Matches ('*' :: p) (letterPage hx (p.dropWhile (· == '*'))).text := by
  have hself : Glob.Fits ⟨false, false⟩ (encode (p.dropWhile (· == '*')))
      (encode (p.dropWhile (· == '*'))) := Glob.fits_self rfl _
  rw [matches_star_iff]
  cases anchor with
  | free => exact ⟨_, List.suffix_rfl, _, suffix_letterPage hx _, hself⟩
  | address => exact ⟨_, rfl, _, suffix_letterPage hx _, hself⟩
  | label =>
    have hletter : [x] ∈ Domain.lineage [x] := by rw [lineage_letter hx, List.mem_singleton]
    exact ⟨_, ⟨_, locate?_letterPage hx _, [x], hletter, rfl⟩, _,
      Text.Utf8.encode_suffix ⟨[x, '/'], rfl⟩, hself⟩

/-- The address of such a file begins with the letter of its site, and so does its host: of two letters
one is not what the pattern begins with. -/
theorem exists_not_takes (hanchor : anchor ≠ free) {c : Char} (hc : c ≠ '*') (rest : List Char) :
    ∃ (x : Char) (hx : x ∈ ['a', 'b']), ∀ suffixes source kind, ¬anchor.Takes (c :: rest)
      (.build suffixes (String.ofList (letterPage hx (c :: rest)).text) source kind) := by
  cases anchor with
  | free => exact absurd rfl hanchor
  | address =>
    obtain ⟨x, hx, hnot⟩ := Glob.exists_not_fits hc rest
    refine ⟨x, hx, fun suffixes source kind => ?_⟩
    rintro ⟨text, htext, hfits⟩
    rw [Request.build, Allows, String.toList_ofList] at htext
    exact hnot _ (htext ▸ hfits)
  | label =>
    cases hsplit : splitHost? (c :: rest) with
    | none =>
      obtain ⟨x, hx, hnot⟩ := Glob.exists_not_fits hc rest
      refine ⟨x, hx, fun suffixes source kind => ?_⟩
      rw [Takes, hsplit]
      rintro ⟨text, ⟨location, hlocated, host, hhost, rfl⟩, hfits⟩
      rw [Request.build, String.toList_ofList, locate?_letterPage] at hlocated
      obtain rfl := Option.some.inj hlocated
      rw [lineage_letter hx, List.mem_singleton] at hhost
      exact hnot _ (hhost ▸ hfits)
    | some parts =>
      obtain ⟨host, after⟩ := parts
      obtain ⟨x, hx, hne⟩ : ∃ x ∈ ['a', 'b'], Text.lower host.toList ≠ [x] := by
        by_cases hone : Text.lower host.toList = ['a']
        · exact ⟨'b', by simp, by simp [hone]⟩
        · exact ⟨'a', by simp, hone⟩
      refine ⟨x, hx, fun suffixes source kind => ?_⟩
      have hlocated : Url.locate? (String.ofList (letterPage hx (c :: rest)).text).toList =
          some ⟨[x, ':', '/', '/'], [x], '/' :: c :: rest⟩ := by
        rw [String.toList_ofList, locate?_letterPage]
      rw [Takes, hsplit]
      rintro ⟨hwithin, -⟩
      rw [Request.hostname_build hlocated, lower_letter hx] at hwithin
      exact not_isWithin_letter hx hne hwithin

/-- After an anchor the star was needed: some address has the pattern only where the anchor does not let
it begin. -/
theorem exists_lost (hanchor : anchor ≠ free) (hrest : p.dropWhile (· == '*') ≠ []) :
    ∃ url : String, anchor.Matches ('*' :: p) url.toList ∧ ∀ suffixes source kind,
      ¬anchor.Takes (p.dropWhile (· == '*')) (.build suffixes url source kind) := by
  obtain ⟨c, rest, hcons⟩ := List.exists_cons_of_ne_nil hrest
  obtain ⟨x, hx, hnot⟩ := exists_not_takes hanchor (head_ne_star hcons) rest
  have hmatches := @matches_letterPage anchor p x hx
  rw [hcons] at hmatches ⊢
  refine ⟨String.ofList (letterPage hx (c :: rest)).text, ?_, hnot⟩
  rw [String.toList_ofList]
  exact hmatches

/-- A pattern of stars and carets fits at the end of every address, and a line has no match there. -/
theorem exists_lost_end (hrest : p.dropWhile (· == '*') ≠ []) (hend : ∀ c ∈ p, c ∈ ['*', '^']) :
    ∃ url : String, free.Matches ('*' :: p) url.toList ∧ ∀ suffixes source kind,
      ¬free.Takes (p.dropWhile (· == '*')) (.build suffixes url source kind) := by
  obtain ⟨c, rest, hcons⟩ := List.exists_cons_of_ne_nil hrest
  obtain ⟨x, hx, hnot⟩ := Glob.exists_not_fits (head_ne_star hcons) rest
  have hbyte : ∃ byte, encode [x] = [byte] := by
    rcases List.mem_pair.1 hx with rfl | rfl <;> exact ⟨_, rfl⟩
  obtain ⟨byte, hbyte⟩ := hbyte
  refine ⟨String.ofList [x], ?_, fun suffixes source kind => ?_⟩
  · exact (free_matches_star_iff (.build none (String.ofList [x]) none .other)).2 (.inr hend)
  · rw [hcons]
    rintro ⟨text, hsuffix, hne, hfits⟩
    rw [Request.build, String.toList_ofList, hbyte] at hsuffix
    rcases List.suffix_cons_iff.1 hsuffix with rfl | hsuffix
    · exact hnot [] (hbyte ▸ hfits)
    · exact hne (List.suffix_nil.1 hsuffix)

end Anchor

/-- A line with a star before its pattern is a filter unless there are only stars, and takes in what the
pattern without its first stars takes in. The star is redundant just when the pattern may begin anywhere
and needs some byte of the address. -/
theorem leadingStar_redundant_iff (anchor : Anchor) {p : List Char}
    (hplain : ∀ c ∈ p, Text.isBlank c = false ∧ c ∉ ['$', '|']) :
    ((∃ filter, parse (String.ofList (anchor.sign ++ '*' :: p)) = .ok filter) ↔ ∃ c ∈ p, c ≠ '*') ∧
    ∀ filter, parse (String.ofList (anchor.sign ++ '*' :: p)) = .ok filter →
      (∀ request, filter.accepts request filter.regex?.join = .ok true ↔
        anchor.Takes (p.dropWhile (· == '*')) request) ∧
      ((∀ suffixes url source kind,
          filter.accepts (.build suffixes url source kind) filter.regex?.join = .ok true ↔
            anchor.Matches ('*' :: p) url.toList) ↔
        anchor = .free ∧ ∃ c ∈ p, c ∉ ['*', '^']) := by
  have hstars : p.dropWhile (· == '*') ≠ [] ↔ ∃ c ∈ p, c ≠ '*' := by
    simp [List.dropWhile_eq_nil_iff]
  rw [parse, String.toList_ofList, Anchor.parseChars_star hplain, ← hstars]
  constructor
  · by_cases hrest : p.dropWhile (· == '*') = []
    · simp [hrest]
    · simp [hrest]
  · intro filter hparse
    have hrest : p.dropWhile (· == '*') ≠ [] := by
      intro hnil
      rw [if_pos hnil] at hparse
      cases hparse
    rw [if_neg hrest] at hparse
    obtain rfl := Except.ok.inj hparse
    have htakes (request : Request) := @Anchor.accepts_filter_iff anchor p request
      (anchor.filter p).regex?.join hrest
    refine ⟨htakes, ?_⟩
    simp only [htakes]
    constructor
    · intro hall
      have hfree : anchor = .free := by
        by_contra hanchor
        obtain ⟨url, hmatches, hnot⟩ := Anchor.exists_lost hanchor hrest
        exact hnot none none .other ((hall none url none .other).2 hmatches)
      subst hfree
      refine ⟨rfl, ?_⟩
      by_contra hend
      push Not at hend
      obtain ⟨url, hmatches, hnot⟩ := Anchor.exists_lost_end hrest hend
      exact hnot none none .other ((hall none url none .other).2 hmatches)
    · rintro ⟨rfl, c, hc, hneeds⟩ suffixes url source kind
      have hiff := @Anchor.free_matches_star_iff p (.build suffixes url source kind)
      rw [or_iff_left fun hend => hneeds (hend c hc)] at hiff
      exact hiff.symm

theorem leadingStar_redundant_iff_script :
    parse "*/ad*.js" = .ok (Anchor.free.filter "/ad*.js".toList) ∧
      ∀ suffixes url source kind,
        (Anchor.free.filter "/ad*.js".toList).accepts (.build suffixes url source kind) none =
            .ok true ↔ Anchor.free.Matches "*/ad*.js".toList url.toList := by
  have hparse : parse "*/ad*.js" = .ok (Anchor.free.filter "/ad*.js".toList) := by rfl
  have hplain : ∀ c ∈ "/ad*.js".toList, Text.isBlank c = false ∧ c ∉ ['$', '|'] :=
    List.all_iff_forall_prop.1 (by decide)
  obtain ⟨-, hreads⟩ := leadingStar_redundant_iff .free hplain
  obtain ⟨-, hredundant⟩ := hreads _ hparse
  exact ⟨hparse, hredundant.2 ⟨rfl, '/', by decide, by decide⟩⟩

/-- A file named after a star is not found in an address that the pattern is anchored to. -/
theorem anchored_star_is_lost :
    parse "|*/ad.js" = .ok (Anchor.address.filter "/ad.js".toList) ∧
      (Anchor.address.filter "/ad.js".toList).accepts
        (.build none "https://a.com/ad.js" none .script) none = .ok false ∧
      Anchor.address.Matches "*/ad.js".toList "https://a.com/ad.js".toList := by
  have hsuffix : encode "/ad.js".toList <:+ encode "https://a.com/ad.js".toList :=
    Text.Utf8.encode_suffix ⟨"https://a.com".toList, by decide⟩
  refine ⟨by rfl, by rfl, Anchor.matches_star_iff.2 ⟨_, rfl, _, hsuffix, ?_⟩⟩
  exact Glob.fits_self rfl _

end NetworkFilter

end ContentFilter
