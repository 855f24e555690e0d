import ContentFilter.Proofs.Domain.Hostname
import ContentFilter.Proofs.Filter.Splitting

/-! The options of a filter without its limit to some pages, and with another one. -/

namespace ContentFilter

namespace FilterOptions

/-- The texts between the commas. -/
def pieces : Option (List Char) → List (List Char)
  | none => []
  | some text => Text.splitOn ',' text

/-- The options that some texts stand for, one after the other. -/
def ofPieces (texts : List (List Char)) : Except FilterError FilterOptions := do
  let draft ← texts.foldlM Draft.add {}
  let kinds ← mask Kind.all draft.kindsIn draft.kindsOut
  let parties ← mask Party.both draft.partiesIn draft.partiesOut
  pure { draft.options with kinds, parties }

theorem ofPieces_pieces (text : Option (List Char)) :
    ofPieces (pieces text) = match text with
      | some text => parse text
      | none => .ok {} := by
  cases text <;> rfl

/-- Texts between commas, if there are any. -/
def join : List (List Char) → Option (List Char)
  | [] => none
  | texts => some ([','].intercalate texts)

theorem join_of_ne_nil {texts : List (List Char)} (h : texts ≠ []) :
    join texts = some ([','].intercalate texts) := by
  cases texts with
  | nil => exact absurd rfl h
  | cons option texts => rfl

theorem pieces_join {texts : List (List Char)} (h : ∀ text ∈ texts, ',' ∉ text) :
    pieces (join texts) = texts := by
  cases texts with
  | nil => rfl
  | cons text texts => exact List.splitOn_intercalate ',' h (List.cons_ne_nil text texts)

theorem ofList_ne_of_mem {c : Char} {name : List Char} {known : String} (h : c ∈ name)
    (hknown : c ∉ known.toList) : (String.ofList name == known) = false := by
  rw [beq_eq_false_iff_ne]
  rintro rfl
  rw [String.toList_ofList] at hknown
  exact hknown h

variable {c : Char} {name : List Char}

theorem flag?_eq_none (h : c ∈ name) (hc : c = '/' ∨ c = '=') : flag? (String.ofList name) = none := by
  unfold flag?
  rcases hc with rfl | rfl <;> simp (disch := decide) [ofList_ne_of_mem h]

theorem kinds?_eq_none (h : '/' ∈ name) : kinds? (String.ofList name) = none := by
  unfold kinds?
  simp (disch := decide) [ofList_ne_of_mem h]

theorem parties?_eq_none (h : '/' ∈ name) : parties? (String.ofList name) = none := by
  unfold parties?
  simp (disch := decide) [ofList_ne_of_mem h]

/-- What an option is limited to, when it is one that limits a filter to pages. -/
def limit? (option : List Char) : Option (List Char) :=
  Text.dropStart? "domain=" (Text.lower option) <|> Text.dropStart? "from=" (Text.lower option)

theorem limit?_isSome (option : List Char) :
    (limit? option).isSome = Exceptions.isDomainOption option := by
  simp [limit?, Exceptions.isDomainOption, Text.dropStart?, Text.startsWith,
    List.isSome_isPrefixOf?_eq_isPrefixOf]

theorem lower_of_limit? {option value : List Char} (h : limit? option = some value) :
    Text.lower option = "domain=".toList ++ value ∨ Text.lower option = "from=".toList ++ value := by
  unfold limit? at h
  cases hdomain : Text.dropStart? "domain=" (Text.lower option) with
  | some rest =>
    rw [hdomain] at h
    cases h
    exact .inl (Text.eq_append_of_isPrefixOf? hdomain)
  | none =>
    rw [hdomain] at h
    exact .inr (Text.eq_append_of_isPrefixOf? h)

/-- The texts that are not blank and limit a filter to no pages, without the blanks around them. -/
def others (texts : List (List Char)) : List (List Char) :=
  (texts.map Text.trim).filter fun option => !option.isEmpty && !Exceptions.isDomainOption option

theorem others_cons (text : List Char) (texts : List (List Char)) :
    others (text :: texts) =
      if Text.trim text ≠ [] ∧ Exceptions.isDomainOption (Text.trim text) = false then
        Text.trim text :: others texts
      else others texts := by
  simp only [others, List.map_cons, List.filter_cons]
  simp

/-- The option that limits a filter to some pages. -/
def limitTo (pages : List (List Char)) : List Char := "domain=".toList ++ ['|'].intercalate pages

namespace Draft

variable {draft next : Draft} {option : List Char}

/-- What was read so far without the limit to pages. -/
def unlimited (draft : Draft) : Draft := { draft with options.domains := none }

theorem add_trim (draft : Draft) (option : List Char) :
    draft.add (Text.trim option) = draft.add option := by
  simp [add]

theorem add_of_blank (h : Text.trim option = []) (draft : Draft) : draft.add option = .ok draft := by
  simp [add, h]

theorem add_of_limit? {value : List Char} (h : limit? (Text.trim option) = some value)
    (draft : Draft) : draft.add option = (parseDomains value).map draft.withDomains := by
  have hlower := lower_of_limit? h
  have hequals : '=' ∈ Text.lower (Text.trim option) := by
    rcases hlower with hlower | hlower <;> simp [hlower]
  have hne : (Text.trim option).isEmpty = false := by
    cases htrim : Text.trim option with
    | nil => rw [htrim] at hequals; cases hequals
    | cons => rfl
  have hcsp : Text.dropStart? "csp=" (Text.trim option) = none := by
    cases hdrop : Text.dropStart? "csp=" (Text.trim option) with
    | none => rfl
    | some rest =>
      rw [Text.eq_append_of_isPrefixOf? hdrop] at hlower
      rcases hlower with hlower | hlower <;> cases hlower
  have hname : (Text.lower (Text.trim option) == "csp".toList) = false := by
    rw [beq_eq_false_iff_ne]
    intro heq
    rw [heq] at hequals
    exact absurd hequals (by decide)
  have hvalue : (Text.dropStart? "domain=" (Text.lower (Text.trim option)) <|>
      Text.dropStart? "from=" (Text.lower (Text.trim option))) = some value := h
  dsimp only [add]
  rw [hne, hcsp, flag?_eq_none hequals (.inr rfl), hname, hvalue]
  rfl

theorem withMask?_unlimited (draft : Draft) (option : List Char) :
    draft.unlimited.withMask? option = (draft.withMask? option).map unlimited := by
  unfold withMask?
  split
  split
  · unfold withKinds
    split <;> rfl
  · rw [Option.map_map]
    congr 1
    funext parties
    unfold withParties
    simp only [Function.comp]
    split <;> rfl

/-- An option that is no limit to pages says the same wherever the filter applies. -/
theorem add_unlimited (hlimit : limit? (Text.trim option) = none) (h : draft.add option = .ok next) :
    draft.unlimited.add option = .ok next.unlimited := by
  have hvalue : (Text.dropStart? "domain=" (Text.lower (Text.trim option)) <|>
      Text.dropStart? "from=" (Text.lower (Text.trim option))) = none := hlimit
  dsimp only [add] at h ⊢
  rw [hvalue] at h ⊢
  dsimp only at h ⊢
  split at h
  · next hblank =>
    cases h
    rw [if_pos hblank]
  next hne =>
  rw [if_neg hne]
  split at h
  · cases h
    rfl
  split at h
  · cases h
    rfl
  split at h
  · next hcsp =>
    cases h
    rw [if_pos hcsp]
    rfl
  next hcsp =>
  rw [if_neg hcsp]
  split at h
  · cases h
    simp only [withRedirect]
    split <;> rfl
  split at h
  · next value _ =>
    by_cases hvalue : value.isEmpty = true
    · rw [if_pos hvalue] at h ⊢
      cases h
      rfl
    · rw [if_neg hvalue] at h ⊢
      cases h
      simp only [withRedirect, if_neg hvalue]
      rfl
  split at h
  · next hmask =>
    cases h
    rw [withMask?_unlimited, hmask]
    rfl
  · cases h

theorem foldlM_others {texts : List (List Char)} (h : texts.foldlM add draft = .ok next) :
    (others texts).foldlM add draft.unlimited = .ok next.unlimited := by
  induction texts generalizing draft with
  | nil =>
    cases h
    rfl
  | cons text texts ih =>
    obtain ⟨middle, hmiddle, hrest⟩ := ok_of_bind h
    rw [others_cons]
    by_cases hblank : Text.trim text = []
    · rw [add_of_blank hblank] at hmiddle
      cases hmiddle
      rw [if_neg fun hother => hother.1 hblank]
      exact ih hrest
    cases hlimit : limit? (Text.trim text) with
    | some value =>
      rw [add_of_limit? hlimit] at hmiddle
      obtain ⟨domains, -, rfl⟩ := ok_of_map hmiddle
      have hsame : (draft.withDomains domains).unlimited = draft.unlimited := rfl
      have hlimited : Exceptions.isDomainOption (Text.trim text) ≠ false := by
        rw [← limit?_isSome, hlimit]
        exact nofun
      rw [if_neg fun hother => hlimited hother.2, ← hsame]
      exact ih hrest
    | none =>
      rw [← limit?_isSome, hlimit, if_pos ⟨hblank, rfl⟩, List.foldlM_cons, add_trim,
        add_unlimited hlimit hmiddle]
      exact ih hrest

end Draft

/-- One of the pages of a limit, and whether it is left out. -/
def page (piece : List Char) : Except FilterError (Bool × String) :=
  let (excluded, name) := match piece with
    | '~' :: rest => (true, rest)
    | name => (false, name)
  match Domain.normalize? name with
  | some domain => .ok (excluded, String.ofList domain)
  | none => .error (.invalidDomain (String.ofList name))

theorem parseDomains_eq (value : List Char) : parseDomains value =
    ((((Text.splitOn '|' value).map Text.trim).filter (!·.isEmpty)).mapM page).bind fun pages =>
      if pages.isEmpty then .error (.invalidDomain (String.ofList value))
      else .ok ⟨(pages.filter (!·.1)).map (·.2), (pages.filter (·.1)).map (·.2)⟩ := by
  rfl

theorem page_of_isHostname {name : List Char} (h : Domain.IsHostname name) :
    page name = .ok (false, String.ofList (Text.lower name)) := by
  have htilde : ∀ rest, name ≠ '~' :: rest := by
    rintro rest rfl
    exact absurd (h.chars '~' List.mem_cons_self) (by decide)
  unfold page
  split
  next excluded rest hparts =>
  split at hparts
  · next rest => exact absurd rfl (htilde rest)
  · cases hparts
    rw [h.normalize?]

variable {pages : List (List Char)}

theorem parseDomains_bars (hpages : ∀ page ∈ pages, Domain.IsHostname page) (hne : pages ≠ []) :
    parseDomains (['|'].intercalate pages) =
      .ok ⟨pages.map fun page => String.ofList (Text.lower page), []⟩ := by
  have hsplit : Text.splitOn '|' (['|'].intercalate pages) = pages := by
    refine List.splitOn_intercalate '|' (fun page hpage hbar => ?_) hne
    exact absurd ((hpages page hpage).chars '|' hbar) (by decide)
  have htrim : pages.map Text.trim = pages :=
    (List.map_congr_left fun page hpage => Text.trim_eq_self (hpages page hpage).not_blank).trans
      (List.map_id' pages)
  have hkept : pages.filter (!·.isEmpty) = pages :=
    List.filter_eq_self.2 fun page hpage => by simpa using (hpages page hpage).nonempty
  rw [parseDomains_eq, hsplit, htrim, hkept,
    mapM_eq_pure_map fun page hpage => page_of_isHostname (hpages page hpage)]
  change (if _ then _ else _) = _
  rw [if_neg (by simpa using hne)]
  simp [List.filter_map, Function.comp_def]

theorem mem_limitTo (hpages : ∀ page ∈ pages, Domain.IsHostname page) {c : Char}
    (h : c ∈ limitTo pages) : NetworkFilter.isHostChar c = true ∨ c = '=' ∨ c = '|' := by
  rcases List.mem_append.1 h with h | h
  · have hdomain : "domain=".toList.all (fun c => NetworkFilter.isHostChar c || c == '=') = true := by
      decide
    have hc := List.all_eq_true.1 hdomain c h
    rw [Bool.or_eq_true, beq_iff_eq] at hc
    exact hc.imp_right .inl
  by_cases hbar : c = '|'
  · exact .inr (.inr hbar)
  · obtain ⟨page, hpage, hmem⟩ := Text.mem_of_mem_intercalate hbar h
    exact .inl ((hpages page hpage).chars c hmem)

theorem not_blank_limitTo (hpages : ∀ page ∈ pages, Domain.IsHostname page) {c : Char}
    (h : c ∈ limitTo pages) : Text.isBlank c = false := by
  rcases mem_limitTo hpages h with h | rfl | rfl
  · exact (NetworkFilter.isHostChar_plain h).2.1
  · decide
  · decide

theorem add_limitTo (hpages : ∀ page ∈ pages, Domain.IsHostname page) (hne : pages ≠ [])
    (draft : Draft) : draft.add (limitTo pages) =
      .ok (draft.withDomains ⟨pages.map fun page => String.ofList (Text.lower page), []⟩) := by
  have hlower : ∀ page ∈ pages.map Text.lower, Domain.IsHostname page := by
    intro page hpage
    obtain ⟨page, hmem, rfl⟩ := List.mem_map.1 hpage
    exact (hpages page hmem).lower
  have hlimit : limit? (Text.trim (limitTo pages)) = some (['|'].intercalate (pages.map Text.lower)) := by
    have hvalue : Text.lower (limitTo pages) =
        "domain=".toList ++ ['|'].intercalate (pages.map Text.lower) := by
      have hdomain : Text.lower "domain=".toList = "domain=".toList := by decide
      have hbar : Text.lower ['|'] = ['|'] := by decide
      unfold limitTo
      rw [Text.lower_append, hdomain, Text.lower_intercalate, hbar]
    have htrim : Text.trim (limitTo pages) = limitTo pages :=
      Text.trim_eq_self fun c hc => not_blank_limitTo hpages hc
    unfold limit?
    rw [htrim, hvalue, Text.dropStart?_append "domain="]
    rfl
  rw [Draft.add_of_limit? hlimit, parseDomains_bars hlower (by simpa using hne)]
  simp [Except.map, Function.comp_def, Text.lower_lower]

/-- The options that limit a filter to some pages; without pages there are none. -/
def limits (pages : List (List Char)) : List (List Char) :=
  if pages.isEmpty then [] else [limitTo pages]

/-- The limit that those options stand for. -/
def constraint? (pages : List (List Char)) : Option DomainConstraint :=
  if pages.isEmpty then none else some ⟨pages.map fun page => String.ofList (Text.lower page), []⟩

/-- Options with another limit to pages are the same options up to that limit. -/
theorem ofPieces_limits (hpages : ∀ page ∈ pages, Domain.IsHostname page)
    {texts : List (List Char)} {options : FilterOptions} (h : ofPieces texts = .ok options) :
    ofPieces (others texts ++ limits pages) = .ok { options with domains := constraint? pages } := by
  obtain ⟨draft, hdraft, h⟩ := ok_of_bind h
  obtain ⟨kinds, hkinds, h⟩ := ok_of_bind h
  obtain ⟨parties, hparties, h⟩ := ok_of_bind h
  cases h
  have hothers : (others texts).foldlM Draft.add {} = .ok draft.unlimited :=
    Draft.foldlM_others hdraft
  have hlimits : (limits pages).foldlM Draft.add draft.unlimited =
      .ok { draft with options.domains := constraint? pages } := by
    unfold limits constraint?
    cases pages with
    | nil => rfl
    | cons page pages =>
      rw [if_neg (by simp), if_neg (by simp), List.foldlM_cons,
        add_limitTo hpages (List.cons_ne_nil page pages)]
      rfl
  rw [ofPieces, List.foldlM_append, hothers]
  change ((limits pages).foldlM Draft.add draft.unlimited >>= _) = _
  rw [hlimits]
  change (mask Kind.all draft.kindsIn draft.kindsOut >>= _) = _
  rw [hkinds]
  change (mask Party.both draft.partiesIn draft.partiesOut >>= _) = _
  rw [hparties]
  rfl

/-- The options have a part whose text may end in a slash. -/
def TakesSlash (options : FilterOptions) : Prop :=
  options.csp.isSome = true ∨ options.flags.mem Flag.redirectRule.index = true ∨
    ∃ name, options.redirect = some name ∧ name.toList.getLast? = some '/'

theorem Draft.withMask?_eq_none {draft : Draft} {option : List Char} (h : '/' ∈ option) :
    draft.withMask? option = none := by
  unfold withMask?
  split
  next negated name hparts =>
  have hmem : '/' ∈ name := by
    split at hparts
    · cases hparts
      exact (List.mem_cons.1 h).resolve_left (by decide)
    · cases hparts
      exact h
  rw [kinds?_eq_none hmem, parties?_eq_none hmem]
  rfl

theorem Draft.add_slash {draft next : Draft} {option : List Char}
    (hslash : (Text.trim option).getLast? = some '/') (hlimit : limit? (Text.trim option) = none)
    (h : draft.add option = .ok next) :
    next.options.TakesSlash := by
  have hvalue : (Text.dropStart? "domain=" (Text.lower (Text.trim option)) <|>
      Text.dropStart? "from=" (Text.lower (Text.trim option))) = none := hlimit
  have hlast : (Text.lower (Text.trim option)).getLast? = some '/' := by
    rw [Text.lower, List.getLast?_map, hslash]
    rfl
  have hmem : '/' ∈ Text.lower (Text.trim option) := List.mem_of_getLast? hlast
  dsimp only [add] at h
  rw [hvalue, flag?_eq_none hmem (.inl rfl), withMask?_eq_none hmem] at h
  dsimp only at h
  split at h
  · next hblank =>
    rw [List.isEmpty_iff.1 hblank] at hslash
    cases hslash
  split at h
  · cases h
    exact .inl rfl
  split at h
  · cases h
    exact .inl rfl
  split at h
  · next value hredirect =>
    cases h
    rw [Text.eq_append_of_isPrefixOf? hredirect] at hlast
    have hne : value ≠ [] := by
      rintro rfl
      exact absurd hlast (by decide)
    rw [List.getLast?_append_of_ne_nil _ hne] at hlast
    rw [withRedirect, if_neg (by simpa using hne)]
    exact .inr (.inr ⟨_, rfl, by rwa [String.toList_ofList]⟩)
  split at h
  · next value hrule =>
    split at h
    · next hempty =>
      rw [Text.eq_append_of_isPrefixOf? hrule, List.isEmpty_iff.1 hempty] at hlast
      exact absurd hlast (by decide)
    · cases h
      refine .inr (.inl ?_)
      simp [withFlag, Flag.set]
  · cases h

section Joined

variable {pieces : List (List Char)} {text : List Char}

theorem mem_others {option : List Char} (h : option ∈ others pieces) :
    (∃ piece ∈ pieces, option = Text.trim piece) ∧ option ≠ [] ∧
      Exceptions.isDomainOption option = false := by
  obtain ⟨hmem, hkept⟩ := List.mem_filter.1 h
  obtain ⟨piece, hpiece, rfl⟩ := List.mem_map.1 hmem
  rw [Bool.and_eq_true] at hkept
  exact ⟨⟨piece, hpiece, rfl⟩, by simpa using hkept.1, by simpa using hkept.2⟩

theorem infix_of_mem_others {options : Option (List Char)} {option : List Char}
    (h : option ∈ others (FilterOptions.pieces options)) :
    ∃ text, options = some text ∧ option <:+: text := by
  obtain ⟨⟨piece, hpiece, rfl⟩, -, -⟩ := mem_others h
  cases options with
  | none => cases hpiece
  | some text =>
    have hpart : piece <:+: text := by
      rw [← Text.intercalate_splitOn ',' text]
      exact Text.infix_intercalate hpiece
    exact ⟨text, rfl, (Text.trim_infix piece).trans hpart⟩

theorem join_eq_some (h : join pieces = some text) :
    pieces ≠ [] ∧ text = [','].intercalate pieces := by
  cases pieces with
  | nil => cases h
  | cons piece pieces =>
    cases h
    exact ⟨List.cons_ne_nil piece pieces, rfl⟩

theorem mem_limits {option : List Char} (h : option ∈ limits pages) : option = limitTo pages := by
  unfold limits at h
  split at h
  · cases h
  · exact List.mem_singleton.1 h

theorem comma_not_mem_limitTo (hpages : ∀ page ∈ pages, Domain.IsHostname page) :
    ',' ∉ limitTo pages := by
  intro h
  rcases mem_limitTo hpages h with h | h | h
  all_goals exact absurd h (by decide)

/-- Options that are taken over and limited to pages read as what was joined. -/
theorem pieces_join_others (hpages : ∀ page ∈ pages, Domain.IsHostname page)
    (text : Option (List Char)) : FilterOptions.pieces (join (others (FilterOptions.pieces text) ++
      limits pages)) = others (FilterOptions.pieces text) ++ limits pages := by
  refine pieces_join fun option hoption => ?_
  rcases List.mem_append.1 hoption with hoption | hoption
  · obtain ⟨⟨piece, hpiece, rfl⟩, -, -⟩ := mem_others hoption
    intro hcomma
    cases text with
    | none => cases hpiece
    | some text =>
      exact Text.not_mem_of_mem_splitOn hpiece ((Text.trim_infix piece).subset hcomma)
  · rw [mem_limits hoption]
    exact comma_not_mem_limitTo hpages

/-- No regular expression ends in options that are taken over and limited to pages. -/
theorem not_endsRegex_join {options : Option (List Char)}
    (hpages : ∀ page ∈ pages, Domain.IsHostname page)
    (hrest : ∀ rest, options = some rest → ¬ NetworkFilter.EndsRegex rest)
    (h : join (others (FilterOptions.pieces options) ++ limits pages) = some text) :
    ¬ NetworkFilter.EndsRegex text := by
  intro hwhole
  obtain ⟨-, rfl⟩ := join_eq_some h
  obtain ⟨option, hoption, hends⟩ :=
    Text.infix_of_infix_intercalate (List.cons_ne_nil '/' ['$']) (by decide) hwhole
  rcases List.mem_append.1 hoption with hoption | hoption
  · obtain ⟨rest, hoptions, hpart⟩ := infix_of_mem_others hoption
    exact hrest rest hoptions (hends.trans hpart)
  · rw [mem_limits hoption] at hends
    rcases mem_limitTo hpages (hends.subset List.mem_cons_self) with hslash | hslash | hslash
    all_goals exact absurd hslash (by decide)

theorem not_takesSlash_last {options : FilterOptions} {front : List (List Char)} {last : List Char}
    (hparse : ofPieces pieces = .ok options) (hslash : ¬ options.TakesSlash)
    (hlast : others pieces = front ++ [last]) : last.getLast? ≠ some '/' := by
  intro hends
  obtain ⟨draft, hdraft, h⟩ := ok_of_bind hparse
  obtain ⟨kinds, -, h⟩ := ok_of_bind h
  obtain ⟨parties, -, h⟩ := ok_of_bind h
  cases h
  have hothers : (others pieces).foldlM Draft.add (Draft.unlimited {}) = .ok draft.unlimited :=
    Draft.foldlM_others hdraft
  rw [hlast, List.foldlM_append] at hothers
  obtain ⟨before, -, hadd⟩ := ok_of_bind hothers
  rw [List.foldlM_cons] at hadd
  obtain ⟨after, hadd, hrest⟩ := ok_of_bind hadd
  cases hrest
  obtain ⟨⟨piece, -, rfl⟩, -, hlimit⟩ := mem_others (hlast ▸ List.mem_append_right front List.mem_cons_self)
  rw [Draft.add_trim] at hadd
  rw [← limit?_isSome, Option.isSome_eq_false_iff, Option.isNone_iff_eq_none] at hlimit
  have htakes : draft.unlimited.options.TakesSlash := Draft.add_slash hends hlimit hadd
  exact hslash htakes

theorem exists_last_join (h : join pieces = some text) :
    ∃ front last, pieces = front ++ [last] ∧ (last ≠ [] → text.getLast? = last.getLast?) := by
  obtain ⟨hne, rfl⟩ := join_eq_some h
  obtain ⟨front, last, rfl⟩ := (List.eq_nil_or_concat' pieces).resolve_left hne
  obtain ⟨before, hbefore⟩ := Text.suffix_intercalate [','] front last
  exact ⟨front, last, rfl, fun hlast => by rw [← hbefore, List.getLast?_append_of_ne_nil _ hlast]⟩

/-- Options that are taken over and limited to pages end in no blank. -/
theorem last_join (hpages : ∀ page ∈ pages, Domain.IsHostname page)
    (h : join (others pieces ++ limits pages) = some text) :
    ∃ c, text.getLast? = some c ∧ Text.isBlank c = false := by
  obtain ⟨front, last, hpieces, hlast⟩ := exists_last_join h
  have hmem : last ∈ others pieces ++ limits pages := hpieces ▸ by simp
  rcases List.mem_append.1 hmem with hmem | hmem
  · obtain ⟨⟨piece, -, rfl⟩, hne, -⟩ := mem_others hmem
    have hc := List.getLast?_eq_getLast_of_ne_nil hne
    exact ⟨_, (hlast hne).trans hc, Text.not_blank_of_getLast?_trim hc⟩
  · rw [mem_limits hmem] at hlast
    have hne : limitTo pages ≠ [] := List.append_ne_nil_of_left_ne_nil (by decide) _
    have hc := List.getLast?_eq_getLast_of_ne_nil hne
    exact ⟨_, (hlast hne).trans hc, not_blank_limitTo hpages (List.mem_of_getLast? hc)⟩

/-- Nor do they end in a slash, when there are pages. -/
theorem last_limits_ne_slash (hpages : ∀ page ∈ pages, Domain.IsHostname page) (hne : pages ≠ [])
    (h : join (others pieces ++ limits pages) = some text) : text.getLast? ≠ some '/' := by
  obtain ⟨front, last, hpieces, hlast⟩ := exists_last_join h
  have hlimits : limits pages = [limitTo pages] := if_neg (by simpa using hne)
  rw [hlimits] at hpieces
  have hlimit : limitTo pages = last := List.singleton_inj.1 (List.append_inj_right' hpieces rfl)
  rw [← hlimit] at hlast
  rw [hlast (List.append_ne_nil_of_left_ne_nil (by decide) _)]
  intro hends
  rcases mem_limitTo hpages (List.mem_of_getLast? hends) with h | h | h
  all_goals exact absurd h (by decide)

/-- Nor do they without pages, when no part of them takes a slash. -/
theorem last_join_ne_slash {options : FilterOptions}
    (hpages : ∀ page ∈ pages, Domain.IsHostname page) (hparse : ofPieces pieces = .ok options)
    (hslash : ¬ options.TakesSlash) (h : join (others pieces ++ limits pages) = some text) :
    text.getLast? ≠ some '/' := by
  cases pages with
  | nil =>
    obtain ⟨front, last, hpieces, hlast⟩ := exists_last_join h
    have hothers : others pieces = front ++ [last] := (List.append_nil _).symm.trans hpieces
    obtain ⟨-, hne, -⟩ := mem_others (hothers ▸ List.mem_append_right front List.mem_cons_self)
    rw [hlast hne]
    exact not_takesSlash_last hparse hslash hothers
  | cons page pages => exact last_limits_ne_slash hpages (List.cons_ne_nil page pages) h

end Joined

end FilterOptions

end ContentFilter
