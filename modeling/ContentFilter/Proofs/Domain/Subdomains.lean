import ContentFilter.Proofs.Domain.Hostname
import ContentFilter.Proofs.Domain.Registrable

/-! Registrable domains by the table of common suffixes: each is its own registrable domain, and the
subdomains of a site share the one of the site. -/

namespace ContentFilter

namespace Domain

section Labels

variable {labels front : List (List Char)} {m n : Nat} {host : List Char}

theorem length_lastLabels (n : Nat) (labels : List (List Char)) :
    (lastLabels n labels).length = min n labels.length := by
  rw [lastLabels, List.length_drop]
  omega

theorem lastLabels_of_length_le (h : labels.length ≤ n) : lastLabels n labels = labels := by
  rw [lastLabels, Nat.sub_eq_zero_of_le h, List.drop_zero]

theorem lastLabels_lastLabels (h : m ≤ n) : lastLabels m (lastLabels n labels) = lastLabels m labels := by
  rw [lastLabels, length_lastLabels, lastLabels, lastLabels, List.drop_drop]
  congr 1
  omega

theorem lastLabels_append (h : n ≤ labels.length) : lastLabels n (front ++ labels) = lastLabels n labels := by
  have hstart : (front ++ labels).length - n = front.length + (labels.length - n) := by
    rw [List.length_append]
    omega
  rw [lastLabels, hstart, List.drop_length_add_append]
  rfl

theorem splitOn_joinLabels_lastLabels (hn : n ≠ 0) (host : List Char) :
    Text.splitOn '.' (joinLabels (lastLabels n (Text.splitOn '.' host))) =
      lastLabels n (Text.splitOn '.' host) := by
  refine List.splitOn_intercalate '.' (fun label hlabel => ?_) ?_
  · exact Text.not_mem_of_mem_splitOn (List.mem_of_mem_drop hlabel)
  · have hlength := Text.length_splitOn '.' host
    rw [← List.length_pos_iff, length_lastLabels]
    omega

/-- The name has another label before a common suffix. -/
def IsUnderCommon (labels : List (List Char)) : Prop :=
  2 < labels.length ∧ String.ofList (joinLabels (lastLabels 2 labels)) ∈ commonSuffixes

instance : Decidable (IsUnderCommon labels) := inferInstanceAs (Decidable (_ ∧ _))

/-- How many labels the registrable domain of a name has, if the name has as many. -/
def depth (labels : List (List Char)) : Nat := if IsUnderCommon labels then 3 else 2

theorem depth_ne_zero (labels : List (List Char)) : depth labels ≠ 0 := by
  unfold depth
  split <;> decide

theorem depth_le_length (h : 2 ≤ labels.length) : depth labels ≤ labels.length := by
  unfold depth
  split
  · next hcommon => exact hcommon.1
  · exact h

theorem depth_eq_three (h : IsUnderCommon labels) : depth labels = 3 := if_pos h

theorem depth_eq_two (h : ¬ IsUnderCommon labels) : depth labels = 2 := if_neg h

theorem commonRegistrable_eq (host : List Char) : commonRegistrable host =
    joinLabels (lastLabels (depth (Text.splitOn '.' host)) (Text.splitOn '.' host)) := by
  dsimp only [commonRegistrable]
  by_cases hshort : (Text.splitOn '.' host).length ≤ 2
  · rw [if_pos hshort, depth_eq_two fun h => absurd h.1 (Nat.not_lt.2 hshort),
      lastLabels_of_length_le hshort]
  rw [if_neg hshort]
  by_cases hcommon :
      String.ofList (joinLabels (lastLabels 2 (Text.splitOn '.' host))) ∈ commonSuffixes
  · rw [if_pos (List.contains_iff_mem.2 hcommon), depth_eq_three ⟨Nat.lt_of_not_le hshort, hcommon⟩]
  · rw [if_neg fun h => hcommon (List.contains_iff_mem.1 h), depth_eq_two fun h => hcommon h.2]

/-- The registrable labels of a name keep what decides how many they are. -/
theorem depth_lastLabels (labels : List (List Char)) :
    depth (lastLabels (depth labels) labels) = depth labels := by
  by_cases hcommon : IsUnderCommon labels
  · rw [depth_eq_three hcommon]
    refine depth_eq_three ⟨?_, ?_⟩
    · have hlong := hcommon.1
      rw [length_lastLabels]
      omega
    · rw [lastLabels_lastLabels (by decide)]
      exact hcommon.2
  · rw [depth_eq_two hcommon]
    refine depth_eq_two fun hstill => ?_
    have hlong := hstill.1
    rw [length_lastLabels] at hlong
    omega

/-- Labels before a name count only when the name is a common suffix itself. -/
theorem depth_append (h : 2 ≤ labels.length) (huncommon : String.ofList (joinLabels labels) ∉ commonSuffixes) :
    depth (front ++ labels) = depth labels := by
  have hsame : IsUnderCommon (front ++ labels) ↔ IsUnderCommon labels := by
    unfold IsUnderCommon
    rw [lastLabels_append h, List.length_append]
    constructor
    · rintro ⟨-, hcommon⟩
      refine ⟨Nat.lt_of_not_le fun hshort => ?_, hcommon⟩
      rw [lastLabels_of_length_le hshort] at hcommon
      exact huncommon hcommon
    · rintro ⟨hlong, hcommon⟩
      exact ⟨by omega, hcommon⟩
  by_cases hcommon : IsUnderCommon labels
  · rw [depth_eq_three hcommon, depth_eq_three (hsame.2 hcommon)]
  · rw [depth_eq_two hcommon, depth_eq_two fun h => hcommon (hsame.1 h)]

end Labels

section Canonical

variable {host name : List Char}

theorem registrable_of_literal (suffixes : Option PublicSuffixes) (h : isLiteral (canonical host) = true) :
    registrable suffixes host = canonical host := if_pos h

theorem registrable_none (h : isLiteral (canonical host) = false) :
    registrable none host = commonRegistrable (canonical host) := if_neg (by simp [h])

theorem canonical_registrable (suffixes : Option PublicSuffixes) (host : List Char) :
    canonical (registrable suffixes host) = registrable suffixes host := by
  refine canonical_eq_self (lower_registrable suffixes host) ?_
  by_cases h : canonical host = []
  · rw [registrable_eq_nil suffixes h]
    exact nofun
  · rw [getLast?_of_mem_lineage (registrable_mem_lineage suffixes h)]
    exact canonical_last host

theorem registrable_none_registrable (host : List Char) :
    registrable none (registrable none host) = registrable none host := by
  have hcanonical := canonical_registrable none host
  by_cases hliteral : isLiteral (canonical (registrable none host)) = true
  · rw [registrable_of_literal none hliteral, hcanonical]
  rw [Bool.not_eq_true] at hliteral
  have hname : isLiteral (canonical host) = false := by
    rw [Bool.eq_false_iff]
    intro h
    rw [registrable_of_literal none h] at hliteral hcanonical
    rw [hcanonical, h] at hliteral
    cases hliteral
  rw [registrable_none hliteral, hcanonical, registrable_none hname, commonRegistrable_eq (canonical host),
    commonRegistrable_eq, splitOn_joinLabels_lastLabels (depth_ne_zero _), depth_lastLabels,
    lastLabels_lastLabels (Nat.le_refl _)]

end Canonical

section Site

/-- A name that its subdomains are one site with: it is no common suffix, nor can it stand at the end of an
address. -/
structure IsSite (site : List Char) : Prop where
  last : site.getLast? ≠ some '.'
  labels : 2 ≤ (Text.splitOn '.' site).length
  uncommon : String.ofList (Text.lower site) ∉ commonSuffixes
  first : site.head? ≠ some '['
  named : ∀ label, (Text.splitOn '.' site).getLast? = some label → label.all Char.isDigit = false

variable {site host below : List Char} {front : List (List Char)}

/-- No address ends in the labels of a site. -/
theorem IsSite.not_isDottedAddress (h : IsSite site)
    (hhost : Text.splitOn '.' host = front ++ Text.splitOn '.' site) :
    isDottedAddress (Text.lower host) = false := by
  have hne := List.splitOn_ne_nil '.' site
  have hnamed := h.named _ (List.getLast?_eq_getLast_of_ne_nil hne)
  obtain ⟨c, hc, hdigit⟩ := List.all_eq_false.1 hnamed
  have hlabel : Text.lower ((Text.splitOn '.' site).getLast hne) ∈ Text.splitOn '.' (Text.lower host) := by
    rw [Text.splitOn_lower (by decide), hhost]
    exact List.mem_map_of_mem (List.mem_append_right front (List.getLast_mem hne))
  refine Domain.not_isDottedAddress hlabel (List.mem_map_of_mem hc) ?_
  rw [Text.isDigit_toLower]
  simpa using hdigit

theorem isLiteral_lower (hne : host ≠ []) (hfirst : host.head? ≠ some '[')
    (haddress : isDottedAddress (Text.lower host) = false) : isLiteral (Text.lower host) = false := by
  rw [isLiteral, haddress, Text.isEmpty_lower, Text.head?_lower_beq (by decide),
    List.isEmpty_eq_false_iff.2 hne, beq_eq_false_iff_ne.2 hfirst]
  rfl

/-- The labels before those of a site are not in its registrable domain. -/
theorem IsSite.registrable_eq (h : IsSite site)
    (hhost : Text.splitOn '.' host = front ++ Text.splitOn '.' site) (hfirst : host.head? ≠ some '[')
    (hlast : host.getLast? ≠ some '.') : registrable none host =
      joinLabels (lastLabels (depth (Text.splitOn '.' (Text.lower site)))
        (Text.splitOn '.' (Text.lower site))) := by
  have hlabels : 2 ≤ (Text.splitOn '.' (Text.lower site)).length := by
    rw [Text.splitOn_lower (by decide), List.length_map]
    exact h.labels
  have huncommon : String.ofList (joinLabels (Text.splitOn '.' (Text.lower site))) ∉ commonSuffixes := by
    rw [joinLabels_splitOn]
    exact h.uncommon
  have hsplit : Text.splitOn '.' (Text.lower host) =
      front.map Text.lower ++ Text.splitOn '.' (Text.lower site) := by
    rw [Text.splitOn_lower (by decide), hhost, List.map_append, Text.splitOn_lower (by decide)]
  have hne : host ≠ [] := by
    rintro rfl
    have hone : (Text.splitOn '.' []).length = 1 := by decide
    have htwo := h.labels
    rw [hhost, List.length_append] at hone
    omega
  have hliteral : isLiteral (canonical host) = false := by
    rw [canonical_of_last hlast]
    exact isLiteral_lower hne hfirst (h.not_isDottedAddress hhost)
  rw [registrable_none hliteral, commonRegistrable_eq, canonical_of_last hlast, hsplit,
    depth_append hlabels huncommon, lastLabels_append (depth_le_length hlabels)]

/-- A subdomain of a site has the registrable domain of the site. -/
theorem IsSite.registrable_below (h : IsSite site) (hne : below ≠ []) (hfirst : below.head? ≠ some '[') :
    registrable none (below ++ '.' :: site) = registrable none site := by
  have hlast : (below ++ '.' :: site).getLast? ≠ some '.' := by
    rw [List.getLast?_append_of_ne_nil _ (List.cons_ne_nil '.' site)]
    cases hsite : site with
    | nil => exact absurd h.labels (by rw [hsite]; decide)
    | cons c rest =>
      rw [List.getLast?_cons_cons, ← hsite]
      exact h.last
  rw [h.registrable_eq (Text.splitOn_append '.' below site)
      (by rwa [List.head?_append_of_ne_nil _ hne]) hlast,
    h.registrable_eq (List.nil_append _).symm h.first h.last]

/-- A host in lower case without the points at its end, and what it is cut down to. -/
theorem exists_cut (host : List Char) : ∃ name points, host = name ++ points ∧ (∀ c ∈ points, c = '.') ∧
    name.getLast? ≠ some '.' ∧ (registrable none host = Text.lower name ∨
      ∃ front, Text.lower name = front ++ '.' :: registrable none host) := by
  obtain ⟨name, points, happend, hpoints, hlast, hcanonical⟩ := exists_points host
  refine ⟨name, points, happend, hpoints, hlast, ?_⟩
  rw [← hcanonical]
  by_cases hempty : canonical host = []
  · exact .inl ((registrable_eq_nil none hempty).trans hempty.symm)
  · obtain ⟨-, heq | hparent⟩ := mem_lineage.1 (registrable_mem_lineage none hempty)
    · exact .inl heq.symm
    · exact .inr hparent

/-- Without a list of suffixes the registrable domain of a host is the host in lower case, without the points
at its end, from the start of one of its labels on; it is its own registrable domain; and the subdomains of a
site have that of the site, so that none is a third party to another. -/
theorem registrable_without_list :
    (∀ host, ∃ name points, host = name ++ points ∧ (∀ c ∈ points, c = '.') ∧ name.getLast? ≠ some '.' ∧
      (registrable none host = Text.lower name ∨
        ∃ front, Text.lower name = front ++ '.' :: registrable none host)) ∧
    (∀ host, registrable none (registrable none host) = registrable none host) ∧
    ∀ site, IsSite site → ∀ below, below ≠ [] → below.head? ≠ some '[' →
      registrable none (below ++ '.' :: site) = registrable none site ∧
      ∀ other, other ≠ [] → other.head? ≠ some '[' →
        isThirdParty none (below ++ '.' :: site) (other ++ '.' :: site) = false := by
  refine ⟨exists_cut, registrable_none_registrable, fun site hsite below hne hfirst => ?_⟩
  have hbelow := hsite.registrable_below hne hfirst
  refine ⟨hbelow, fun other hother hfirst' => ?_⟩
  rw [isThirdParty, hbelow, hsite.registrable_below hother hfirst', bne_self_eq_false]

/-- A host with an empty label and one that begins like an address are of one site. -/
theorem registrable_without_list_shop :
    IsSite "Shop.co.UK".toList ∧
    registrable none "a..Shop.co.UK".toList = "shop.co.uk".toList ∧
    isThirdParty none "a..Shop.co.UK".toList "127.0.0.1.Shop.co.UK".toList = false := by
  have hsite : IsSite "Shop.co.UK".toList := by
    refine ⟨by decide, by decide, by decide +kernel, by decide, ?_⟩
    rintro label ⟨⟩
    decide
  obtain ⟨-, -, hbelow⟩ := registrable_without_list
  obtain ⟨hsame, hthird⟩ := hbelow "Shop.co.UK".toList hsite "a.".toList (by decide) (by decide)
  have hshop : registrable none "Shop.co.UK".toList = "shop.co.uk".toList := by decide +kernel
  exact ⟨hsite, hsame.trans hshop, hthird "127.0.0.1".toList (by decide) (by decide)⟩

-- a common suffix is no site
example : registrable none "a.co.uk".toList ≠ registrable none "co.uk".toList := by decide +kernel

end Site

end Domain

end ContentFilter
