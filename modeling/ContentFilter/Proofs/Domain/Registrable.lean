import ContentFilter.Domain.PublicSuffix
import ContentFilter.Proofs.Domain.Lineage
import ContentFilter.Proofs.Filter.Parsed
import ContentFilter.Proofs.Text.Basic

/-! The registrable domain of a host is the host or one of its parents, whatever the suffixes are, and the names down
to it are a part of the host and its parents. -/

namespace ContentFilter.Domain

variable {host name other : List Char}

theorem size_lt_of_mem_ancestors (h : name ∈ ancestors host) :
    Text.Utf8.size name < Text.Utf8.size host := by
  obtain ⟨-, labels, rfl⟩ := mem_ancestors.1 h
  have hpoint : ('.' : Char).utf8Size = 1 := by decide
  rw [Text.Utf8.size_append, Text.Utf8.size_cons, hpoint]
  omega

theorem ancestors_pairwise (host : List Char) :
    (ancestors host).Pairwise fun a b => Text.Utf8.size b < Text.Utf8.size a := by
  induction host with
  | nil => exact .nil
  | cons c s ih =>
    rw [ancestors]
    split
    · split
      · exact .nil
      · exact List.pairwise_cons.2 ⟨fun _ => size_lt_of_mem_ancestors, ih⟩
    · exact ih

theorem lineage_pairwise (host : List Char) :
    (lineage host).Pairwise fun a b => Text.Utf8.size b < Text.Utf8.size a := by
  rw [lineage]
  split
  · exact .nil
  · exact List.pairwise_cons.2 ⟨fun _ => size_lt_of_mem_ancestors, ancestors_pairwise host⟩

theorem lineage_of_ne_nil (h : host ≠ []) : lineage host = host :: ancestors host := by simp [lineage, h]

/-- A parent of a host is followed by its own parents. -/
theorem exists_ancestors_eq (h : name ∈ ancestors host) :
    ∃ front, ancestors host = front ++ name :: ancestors name := by
  induction host with
  | nil => cases h
  | cons c s ih =>
    rw [ancestors] at h ⊢
    by_cases hc : c = '.'
    · cases s with
      | nil => simp [hc] at h
      | cons d s =>
        simp only [hc, List.isEmpty_cons, if_true, Bool.false_eq_true, if_false] at h ⊢
        rcases List.mem_cons.1 h with rfl | h
        · exact ⟨[], rfl⟩
        · obtain ⟨front, hfront⟩ := ih h
          exact ⟨(d :: s) :: front, by simp [hfront]⟩
    · rw [if_neg hc] at h ⊢
      exact ih h

theorem exists_lineage_eq (h : name ∈ lineage host) :
    ∃ front, lineage host = front ++ name :: ancestors name := by
  have hne : host ≠ [] := by
    rintro rfl
    cases h
  rw [lineage_of_ne_nil hne] at h ⊢
  rcases List.mem_cons.1 h with rfl | h
  · exact ⟨[], rfl⟩
  · obtain ⟨front, hfront⟩ := exists_ancestors_eq h
    exact ⟨host :: front, by simp [hfront]⟩

/-- Of two names in a lineage the shorter one is a parent of the other. -/
theorem mem_ancestors_of_size_lt (hname : name ∈ lineage host) (hother : other ∈ lineage host)
    (h : Text.Utf8.size other < Text.Utf8.size name) : other ∈ ancestors name := by
  obtain ⟨front, hfront⟩ := exists_lineage_eq hname
  have hsizes := lineage_pairwise host
  rw [hfront, List.pairwise_append] at hsizes
  rw [hfront, List.mem_append, List.mem_cons] at hother
  rcases hother with hother | rfl | hother
  · have hlonger := hsizes.2.2 other hother name List.mem_cons_self
    omega
  · omega
  · exact hother

theorem prefix_upTo (limit : Nat) (names : List (List Char)) : upTo limit names <+: names := by
  induction names with
  | nil => exact List.prefix_rfl
  | cons name names ih =>
    rw [upTo, List.cons_prefix_cons]
    split
    · exact ⟨rfl, ih⟩
    · exact ⟨rfl, List.nil_prefix⟩

theorem upTo_eq_nil {limit : Nat} {names : List (List Char)} : upTo limit names = [] ↔ names = [] := by
  cases names <;> simp [upTo]

theorem upTo_append {limit : Nat} {front : List (List Char)} (h : ∀ name ∈ front, limit < Text.Utf8.size name)
    (names : List (List Char)) : upTo limit (front ++ names) = front ++ upTo limit names := by
  induction front with
  | nil => rfl
  | cons first front ih =>
    obtain ⟨hfirst, hfront⟩ := List.forall_mem_cons.1 h
    simp [upTo, hfirst, ih hfront]

theorem ancestors_eq_nil : ancestors host = [] ↔ parent? host = none := by
  rw [ancestors_eq]
  cases parent? host <;> simp

/-- Of the names cut off at a length, one that is long enough stands between its subdomains and its parents. It is
the last one if it is not too long or has no parents. -/
theorem exists_upTo_lineage {limit : Nat} (hmem : name ∈ lineage host) (hlimit : limit ≤ Text.Utf8.size name) :
    ∃ front past, upTo limit (lineage host) = front ++ name :: past ∧
      (∀ other ∈ front, name ∈ ancestors other) ∧ (∀ other ∈ past, other ∈ ancestors name) ∧
      (past = [] ↔ Text.Utf8.size name ≤ limit ∨ parent? name = none) := by
  obtain ⟨front, hfront⟩ := exists_lineage_eq hmem
  have hsizes := lineage_pairwise host
  rw [hfront, List.pairwise_append] at hsizes
  have hlonger : ∀ other ∈ front, Text.Utf8.size name < Text.Utf8.size other :=
    fun other hother => hsizes.2.2 other hother name List.mem_cons_self
  have hcut : upTo limit (lineage host) = front ++ upTo limit (name :: ancestors name) := by
    rw [hfront]
    exact upTo_append (fun other hother => Nat.lt_of_le_of_lt hlimit (hlonger other hother)) _
  refine ⟨front, _, hcut, fun other hother => ?_, fun other hother => ?_, ?_⟩
  · have hother' : other ∈ lineage host := by simp [hfront, hother]
    exact mem_ancestors_of_size_lt hother' hmem (hlonger other hother)
  · split at hother
    · exact (prefix_upTo _ _).subset hother
    · cases hother
  · split
    · next hlong => simp [upTo_eq_nil, ancestors_eq_nil, Nat.not_le.2 hlong]
    · next hshort => simp [Nat.le_of_not_lt hshort]

/-- The last labels of a name follow a point, unless they are all of it. -/
theorem joinLabels_drop {labels : List (List Char)} {n : Nat} (hn : n < labels.length) :
    joinLabels labels = joinLabels (labels.drop n) ∨
      ∃ front, joinLabels labels = front ++ '.' :: joinLabels (labels.drop n) := by
  induction labels generalizing n with
  | nil => cases hn
  | cons label labels ih =>
    cases n with
    | zero => exact .inl rfl
    | succ n =>
      right
      rw [List.length_cons, Nat.add_lt_add_iff_right] at hn
      cases labels with
      | nil => cases hn
      | cons second labels =>
        have hjoin : joinLabels (label :: second :: labels) =
            label ++ '.' :: joinLabels (second :: labels) := by
          simp [joinLabels, List.intercalate_cons_cons]
        rw [hjoin, List.drop_succ_cons]
        rcases ih hn with heq | ⟨front, heq⟩
        · exact ⟨label, by rw [← heq]⟩
        · exact ⟨label ++ '.' :: front, by rw [heq]; simp⟩

theorem joinLabels_splitOn (host : List Char) : joinLabels (Text.splitOn '.' host) = host :=
  Text.intercalate_splitOn '.' host

/-- The last labels of a name that does not end in a point are the name or one of its parents. -/
theorem lastLabels_mem_lineage (hne : host ≠ []) (hlast : host.getLast? ≠ some '.') {n : Nat}
    (hn : n ≠ 0) : joinLabels (lastLabels n (Text.splitOn '.' host)) ∈ lineage host := by
  have hlabels : 0 < (Text.splitOn '.' host).length :=
    List.length_pos_iff.2 (List.splitOnP_ne_nil _ host)
  have hdrop : (Text.splitOn '.' host).length - n < (Text.splitOn '.' host).length := by omega
  rw [lastLabels]
  rcases joinLabels_drop hdrop with heq | ⟨front, heq⟩
  · rw [← heq, joinLabels_splitOn]
    exact mem_lineage.2 ⟨hne, .inl rfl⟩
  · rw [joinLabels_splitOn] at heq
    refine mem_lineage.2 ⟨fun hempty => hlast ?_, .inr ⟨front, heq⟩⟩
    rw [heq, hempty]
    simp

theorem canonical_last (host : List Char) : (canonical host).getLast? ≠ some '.' := by
  rw [canonical, Text.lower, List.getLast?_map, ne_eq, Option.map_eq_some_iff]
  rintro ⟨c, hc, hpoint⟩
  rw [Text.toLower_eq_point] at hpoint
  rw [Text.dropEndWhile_eq_rdropWhile] at hc
  obtain ⟨hne, rfl⟩ := List.mem_getLast?_eq_getLast hc
  exact List.rdropWhile_last_not _ _ hne (beq_iff_eq.2 hpoint)

theorem canonical_append {points : List Char} (hlast : name.getLast? ≠ some '.')
    (hpoints : ∀ c ∈ points, c = '.') : canonical (name ++ points) = Text.lower name := by
  have hall : points.all (· == '.') = true := by simpa using hpoints
  have hdrop : Text.dropEndWhile (· == '.') name = name := by
    rw [Text.dropEndWhile_eq_rdropWhile, List.rdropWhile_eq_self_iff]
    intro hne hpoint
    exact hlast (by rw [List.getLast?_eq_getLast_of_ne_nil hne, beq_iff_eq.1 hpoint])
  rw [canonical, Text.dropEndWhile_append, if_pos hall, hdrop]

theorem canonical_of_last (hlast : host.getLast? ≠ some '.') : canonical host = Text.lower host := by
  have hcanonical : canonical (host ++ []) = Text.lower host := canonical_append hlast nofun
  rwa [List.append_nil] at hcanonical

theorem canonical_eq_self (hlow : Text.lower host = host) (hlast : host.getLast? ≠ some '.') :
    canonical host = host := by
  rw [canonical_of_last hlast, hlow]

/-- A name without the points at its end, and these points. -/
theorem exists_points (name : List Char) : ∃ stem points, name = stem ++ points ∧ (∀ c ∈ points, c = '.') ∧
    stem.getLast? ≠ some '.' ∧ canonical name = Text.lower stem := by
  obtain ⟨points, hpoints, happend⟩ := Text.exists_dropped (· == '.') name
  refine ⟨_, points, happend.symm, by simpa using hpoints, fun hlast => ?_, rfl⟩
  apply canonical_last name
  rw [canonical, Text.lower, List.getLast?_map, hlast]
  decide

theorem lower_canonical (host : List Char) : Text.lower (canonical host) = canonical host :=
  Text.lower_lower _

/-- The registrable domain of a host is a parent of its canonical form, or that form itself. -/
theorem registrable_mem_lineage (suffixes : Option PublicSuffixes) (h : canonical host ≠ []) :
    registrable suffixes host ∈ lineage (canonical host) := by
  have hself : canonical host ∈ lineage (canonical host) := mem_lineage.2 ⟨h, .inl rfl⟩
  have hlast : ∀ {n}, n ≠ 0 →
      joinLabels (lastLabels n (Text.splitOn '.' (canonical host))) ∈ lineage (canonical host) :=
    fun hn => lastLabels_mem_lineage h (canonical_last host) hn
  dsimp only [registrable]
  split
  · exact hself
  split
  · next suffixes =>
    dsimp only [PublicSuffixes.registrable]
    split
    · exact hself
    · exact hlast (Nat.succ_ne_zero _)
  · dsimp only [commonRegistrable]
    split
    · rwa [joinLabels_splitOn]
    split
    · exact hlast (by decide)
    · exact hlast (by decide)

theorem lower_of_suffix (hlow : Text.lower host = host) (h : name <:+ host) :
    Text.lower name = name := by
  rw [List.suffix_iff_eq_drop.1 h]
  exact lower_drop hlow _

theorem registrable_eq_nil (suffixes : Option PublicSuffixes) (h : canonical host = []) :
    registrable suffixes host = [] := by
  dsimp only [registrable]
  rw [h]
  rfl

theorem lower_registrable (suffixes : Option PublicSuffixes) (host : List Char) :
    Text.lower (registrable suffixes host) = registrable suffixes host := by
  by_cases h : canonical host = []
  · rw [registrable_eq_nil suffixes h]
    rfl
  · exact lower_of_suffix (lower_canonical host)
      (suffix_of_mem_lineage (registrable_mem_lineage suffixes h))

/-- The name above a public suffix of a host is short of nothing: when the host lies within another
name over the suffix, that one comes on the way down to the registrable domain. -/
theorem mem_toRegistrable {suffixes : Option PublicSuffixes} {label suffix entity : List Char}
    (hlow : Text.lower host = host)
    (hcut : Text.cut? ['.'] (registrable suffixes host) = some (label, suffix))
    (hentity : entity ++ '.' :: suffix ∈ lineage host) :
    entity ++ '.' :: suffix ∈ toRegistrable suffixes host := by
  obtain ⟨hlabel, hjoined⟩ := Text.cut?_eq_some.1 hcut
  have hne : canonical host ≠ [] := by
    intro hempty
    rw [registrable_eq_nil suffixes hempty] at hjoined
    cases label <;> cases hjoined
  have hmem := registrable_mem_lineage suffixes hne
  -- the suffix does not end in a point, so neither does the host
  have hsuffix : suffix.getLast? ≠ some '.' ∧ suffix ≠ [] := by
    have hlast := canonical_last host
    rw [← getLast?_of_mem_lineage hmem, hjoined, List.getLast?_append_of_ne_nil _ (by simp)] at hlast
    cases suffix with
    | nil => exact absurd rfl hlast
    | cons c suffix => exact ⟨by rwa [List.getLast?_cons_cons] at hlast, List.cons_ne_nil c suffix⟩
  have hcanonical : canonical host = host := by
    refine canonical_eq_self hlow ?_
    rw [← getLast?_of_mem_lineage hentity, List.getLast?_append_of_ne_nil _ (by simp)]
    obtain ⟨c, rest, rfl⟩ := List.exists_cons_of_ne_nil hsuffix.2
    rw [List.getLast?_cons_cons]
    exact hsuffix.1
  rw [hcanonical] at hmem
  have hlong : Text.Utf8.size (registrable suffixes host) ≤ Text.Utf8.size (entity ++ '.' :: suffix) := by
    by_contra hshort
    have hparent := mem_ancestors_of_size_lt hmem hentity (Nat.lt_of_not_le hshort)
    obtain ⟨-, labels, hlabels⟩ := mem_ancestors.1 hparent
    rw [hjoined] at hlabels
    -- what is cut off before the suffix would have a point
    have hpoint : label = labels ++ '.' :: entity := by
      have hassoc : labels ++ '.' :: (entity ++ '.' :: suffix) =
          (labels ++ '.' :: entity) ++ '.' :: suffix := by simp
      rw [hassoc] at hlabels
      exact List.append_cancel_right hlabels
    exact hlabel (by rw [hpoint]; simp)
  obtain ⟨front, past, hcut, -⟩ := exists_upTo_lineage hentity hlong
  rw [toRegistrable, hcut]
  simp

end ContentFilter.Domain
