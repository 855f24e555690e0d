import ContentFilter.Proofs.Engine.Custom
import ContentFilter.Proofs.Matching.Answers
import ContentFilter.Proofs.Matching.PageRules
import ContentFilter.Proofs.Matching.TwoPasses

/-! The style sheet of a page in blocks. Braces open and close by turns in it, whatever the texts of the
filters are; what stands before the braces and inside of them comes from filters that the page is shown
with. -/

namespace ContentFilter

open Domain (IsAscii)

def isBrace (c : Char) : Bool := c == '{' || c == '}'

/-- A text that can stand before braces or inside of them. -/
structure IsBlockText (text : List Char) : Prop where
  trimmed : Text.trim text = text
  ne_nil : text ≠ []
  noBrace : ∀ c ∈ text, isBrace c = false

theorem isBlockText_trim {s : List Char} (hne : Text.trim s ≠ [])
    (hbrace : CosmeticFilter.hasBrace (Text.trim s) = false) : IsBlockText (Text.trim s) := by
  rw [CosmeticFilter.hasBrace, List.any_eq_false] at hbrace
  exact ⟨Text.trim_trim s, hne, fun c hc => Bool.eq_false_iff.2 (hbrace c hc)⟩

namespace CosmeticFilter

variable {filter : CosmeticFilter} {rule : PageRule}

theorem isBlockText_of_parseSelector {s : List Char} {selector : String}
    (h : parseSelector s = .ok selector) : IsBlockText selector.toList := by
  obtain ⟨rfl, hne, hbrace⟩ := parseSelector_eq_ok.1 h
  rw [String.toList_ofList]
  exact isBlockText_trim hne hbrace

/-- What a body gives to a style sheet can stand in its blocks. -/
structure FitsBlock (kind : CosmeticKind) (selector : String) : Prop where
  hide : kind = .hide → IsBlockText selector.toList
  style : ∀ css, kind = .style css → IsBlockText selector.toList ∧ IsBlockText css.toList

theorem IsBody.fitsBlock {unhide : Bool} {body : List Char} {kind : CosmeticKind} {selector : String}
    (h : IsBody unhide body kind selector) : FitsBlock kind selector := by
  cases h with
  | call hbody hnamed => exact ⟨by simp, by simp⟩
  | html hbody hselector => exact ⟨by simp, by simp⟩
  | @style text css _ hmark hbody hselector hbrace hcss =>
    refine ⟨by simp, ?_⟩
    rintro _ ⟨⟩
    rw [String.toList_ofList]
    refine ⟨isBlockText_of_parseSelector hselector, isBlockText_trim hcss ?_⟩
    -- braces are looked for before the blanks are cut off
    rw [hasBrace, List.any_eq_false] at hbrace ⊢
    exact fun c hc => hbrace c ((Text.trim_infix css).subset hc)
  | extended hmark hselector => exact ⟨by simp, by simp⟩
  | hide hmark hselector => exact ⟨fun _ => isBlockText_of_parseSelector hselector, by simp⟩

theorem IsRead.fitsBlock (h : filter.IsRead) : FitsBlock filter.kind filter.selector := by
  obtain ⟨hosts, sep, body, hsplit⟩ := exists_isSplit (Filter.cosmetic_of_parseChars h)
  exact hsplit.isBody.fitsBlock

theorem rule?_eq_hide {selector : String} :
    filter.rule? = some (.hide selector) ↔ filter.kind = .hide ∧ filter.selector = selector := by
  unfold rule?
  cases filter.kind <;> simp

theorem rule?_eq_style {selector css : String} :
    filter.rule? = some (.style selector css) ↔ filter.kind = .style css ∧ filter.selector = selector := by
  unfold rule?
  cases filter.kind <;> simp [and_comm]

theorem isWanted_of_unhide {query : CosmeticQuery} (h : filter.unhide = true) :
    filter.isWanted query = true := by
  simp [isWanted, h]

end CosmeticFilter

/-- A piece of a style sheet: what stands before its braces, and what inside of them. -/
structure StyleBlock where
  before : List Char
  inside : List Char
  deriving DecidableEq, Repr

namespace StyleBlock

def text (block : StyleBlock) : List Char := block.before ++ '{' :: block.inside ++ ['}']

/-- There are no braces but the two of the block. -/
structure IsPlain (block : StyleBlock) : Prop where
  before : ∀ c ∈ block.before, isBrace c = false
  inside : ∀ c ∈ block.inside, isBrace c = false

variable {block : StyleBlock} {blocks : List StyleBlock} {shown : PageRule → Prop}

theorem IsPlain.filter_text (h : block.IsPlain) : block.text.filter isBrace = ['{', '}'] := by
  have hnone {s : List Char} (hs : ∀ c ∈ s, isBrace c = false) : s.filter isBrace = [] :=
    List.filter_eq_nil_iff.2 fun c hc => Bool.eq_false_iff.1 (hs c hc)
  rw [text, List.filter_append, List.filter_append, hnone h.before, List.filter_cons_of_pos (by decide),
    hnone h.inside]
  rfl

/-- The braces of plain blocks open and close by turns. -/
theorem filter_flatMap_text (h : ∀ block ∈ blocks, block.IsPlain) :
    (blocks.flatMap (·.text)).filter isBrace = (List.replicate blocks.length ['{', '}']).flatten := by
  induction blocks with
  | nil => rfl
  | cons block blocks ih =>
    obtain ⟨hblock, hblocks⟩ := List.forall_mem_cons.1 h
    rw [List.flatMap_cons, List.filter_append, hblock.filter_text, ih hblocks, List.length_cons,
      List.replicate_succ, List.flatten_cons]

/-- Where the texts of a block come from, blanks around them aside: from some rules to hide elements, or
from one rule with declarations of its own. -/
inductive ComesFrom (shown : PageRule → Prop) (block : StyleBlock) : Prop
  | hide {selectors : List String} (hne : selectors ≠ [])
      (hshown : ∀ selector ∈ selectors, shown (.hide selector))
      (hbefore : block.before = (",\n".intercalate selectors).toList)
      (hinside : block.inside = "display:none !important;".toList)
  | style {selector css : String} (hshown : shown (.style selector css))
      (hbefore : Text.trim block.before = selector.toList) (hinside : Text.trim block.inside = css.toList)

/-- The block of all hidden selectors. -/
def ofHidden (selectors : List String) : StyleBlock :=
  ⟨(",\n".intercalate selectors).toList, "display:none !important;".toList⟩

/-- The block of a rule with declarations. -/
def ofStyle (rule : String × String) : StyleBlock :=
  ⟨rule.1.toList ++ [' '], ' ' :: rule.2.toList ++ [' ']⟩

/-- The line break before a block belongs to it. -/
def onNewLine (block : StyleBlock) : StyleBlock := { block with before := '\n' :: block.before }

/-- The blocks that stand in one line each. -/
def inLines : List StyleBlock → List StyleBlock
  | [] => []
  | block :: blocks => block :: blocks.map onNewLine

theorem flatMap_text_inLines (blocks : List StyleBlock) :
    (inLines blocks).flatMap (·.text) = ['\n'].intercalate (blocks.map (·.text)) := by
  have hrest (blocks : List StyleBlock) (first : List Char) :
      first ++ (blocks.map onNewLine).flatMap (·.text) =
        ['\n'].intercalate (first :: blocks.map (·.text)) := by
    induction blocks generalizing first with
    | nil => simp
    | cons block blocks ih =>
      rw [List.map_cons, List.map_cons, List.intercalate_cons_cons, ← ih, List.flatMap_cons]
      simp [onNewLine, text]
  cases blocks with
  | nil => rfl
  | cons block blocks => exact hrest blocks block.text

/-- The blocks of a style sheet. -/
def ofRules (hidden : List String) (styles : List (String × String)) : List StyleBlock :=
  inLines ((if hidden.isEmpty then [] else [ofHidden hidden]) ++ styles.map ofStyle)

theorem toList_styleSheet (hidden : List String) (styles : List (String × String)) :
    (CosmeticMatch.styleSheet hidden styles).toList = (ofRules hidden styles).flatMap (·.text) := by
  have hhidden : (if hidden.isEmpty then [] else
      [",\n".intercalate hidden ++ "\x7bdisplay:none !important;\x7d"]).map String.toList =
        (if hidden.isEmpty then [] else [ofHidden hidden]).map (·.text) := by
    cases hidden.isEmpty with
    | true => rfl
    | false => simp [ofHidden, text]
  have hstyles : (styles.map fun rule => rule.1 ++ " \x7b " ++ rule.2 ++ " \x7d").map String.toList =
      (styles.map ofStyle).map (·.text) := by
    rw [List.map_map, List.map_map]
    refine List.map_congr_left fun rule _ => ?_
    simp [ofStyle, text]
  rw [ofRules, flatMap_text_inLines, List.map_append, ← hhidden, ← hstyles, ← List.map_append,
    CosmeticMatch.styleSheet, String.toList_intercalate]
  rfl

theorem isPlain_ofHidden {selectors : List String} (h : ∀ selector ∈ selectors, IsBlockText selector.toList) :
    (ofHidden selectors).IsPlain := by
  constructor
  · intro c hc
    rw [ofHidden, String.toList_intercalate] at hc
    rcases Text.mem_intercalate hc with hc | ⟨piece, hpiece, hc⟩
    · have hjoin : ∀ c ∈ ",\n".toList, isBrace c = false := by simp [isBrace]
      exact hjoin c hc
    · obtain ⟨selector, hselector, rfl⟩ := List.mem_map.1 hpiece
      exact (h selector hselector).noBrace c hc
  · simp [ofHidden, isBrace]

theorem isPlain_ofStyle {rule : String × String} (hselector : IsBlockText rule.1.toList)
    (hcss : IsBlockText rule.2.toList) : (ofStyle rule).IsPlain := by
  have hblank : isBrace ' ' = false := by decide
  constructor
  · simpa [ofStyle, or_imp, forall_and, hblank] using hselector.noBrace
  · simpa [ofStyle, or_imp, forall_and, hblank] using hcss.noBrace

theorem IsPlain.onNewLine (h : block.IsPlain) : block.onNewLine.IsPlain := by
  refine ⟨List.forall_mem_cons.2 ⟨by decide, h.before⟩, h.inside⟩

theorem trim_of_isBlockText {front s back : List Char} (hfront : ∀ c ∈ front, Text.isBlank c = true)
    (hback : ∀ c ∈ back, Text.isBlank c = true) (h : IsBlockText s) :
    Text.trim (front ++ s ++ back) = s := by
  refine Text.trim_append hfront hback (fun c hc => ?_) (fun c hc => ?_) h.ne_nil
  · rw [← h.trimmed] at hc
    exact Text.not_blank_of_head?_trim hc
  · rw [← h.trimmed] at hc
    exact Text.not_blank_of_getLast?_trim hc

/-- The block of a rule with declarations comes from that rule, on a new line or not. -/
theorem comesFrom_ofStyle {rule : String × String} {front : List Char}
    (hfront : ∀ c ∈ front, Text.isBlank c = true) (hshown : shown (.style rule.1 rule.2))
    (hselector : IsBlockText rule.1.toList) (hcss : IsBlockText rule.2.toList) :
    ComesFrom shown { ofStyle rule with before := front ++ (ofStyle rule).before } := by
  have hblank : ∀ c ∈ [' '], Text.isBlank c = true := List.forall_mem_singleton.2 rfl
  refine .style hshown ?_ ?_
  · rw [← trim_of_isBlockText hfront hblank hselector, ofStyle, List.append_assoc]
  · exact trim_of_isBlockText hblank hblank hcss

/-- The blocks of a style sheet have no other braces, and come from its rules. -/
theorem forall_mem_ofRules {hidden : List String} {styles : List (String × String)}
    (hhidden : ∀ selector ∈ hidden, shown (.hide selector) ∧ IsBlockText selector.toList)
    (hstyles : ∀ rule ∈ styles,
      shown (.style rule.1 rule.2) ∧ IsBlockText rule.1.toList ∧ IsBlockText rule.2.toList) :
    ∀ block ∈ ofRules hidden styles, block.IsPlain ∧ block.ComesFrom shown := by
  have hstyle : ∀ rule ∈ styles, (ofStyle rule).IsPlain ∧ (ofStyle rule).ComesFrom shown ∧
      (ofStyle rule).onNewLine.ComesFrom shown := by
    intro rule hrule
    obtain ⟨hshown, hselector, hcss⟩ := hstyles rule hrule
    refine ⟨isPlain_ofStyle hselector hcss, ?_, ?_⟩
    · exact comesFrom_ofStyle (List.forall_mem_nil _) hshown hselector hcss
    · have hbreak : ∀ c ∈ ['\n'], Text.isBlank c = true := List.forall_mem_singleton.2 rfl
      exact comesFrom_ofStyle hbreak hshown hselector hcss
  have hbelow : ∀ rules ⊆ styles, ∀ block ∈ (rules.map ofStyle).map onNewLine,
      block.IsPlain ∧ block.ComesFrom shown := by
    intro rules hrules block hblock
    obtain ⟨_, hmem, rfl⟩ := List.mem_map.1 hblock
    obtain ⟨rule, hrule, rfl⟩ := List.mem_map.1 hmem
    obtain ⟨hplain, -, hcomes⟩ := hstyle rule (hrules hrule)
    exact ⟨hplain.onNewLine, hcomes⟩
  cases hidden with
  | nil =>
    cases styles with
    | nil => exact List.forall_mem_nil _
    | cons rule styles =>
      obtain ⟨hplain, hcomes, -⟩ := hstyle rule List.mem_cons_self
      exact List.forall_mem_cons.2 ⟨⟨hplain, hcomes⟩, hbelow styles (List.subset_cons_self rule styles)⟩
  | cons selector hidden =>
    refine List.forall_mem_cons.2 ⟨⟨isPlain_ofHidden fun selector hselector => (hhidden selector hselector).2,
      ?_⟩, hbelow styles (List.Subset.refl styles)⟩
    exact .hide (List.cons_ne_nil selector hidden) (fun selector hselector => (hhidden selector hselector).1)
      rfl rfl

end StyleBlock

/-- A list that was compiled from a text, one of the user's own included. -/
def FilterList.IsOfText (list : FilterList) : Prop :=
  list.Compiled ∨ ∃ text trusted, list = CustomFilters.listOf text trusted

theorem FilterList.IsOfText.isRead {list : FilterList} (h : list.IsOfText) :
    ∀ filter ∈ list.cosmetic, filter.IsRead := by
  intro filter hfilter
  obtain h | ⟨text, trusted, rfl⟩ := h
  · exact (h.isSound filter hfilter).read
  · obtain ⟨-, line, -, hline⟩ := CustomFilters.exists_of_mem_parseLines filter hfilter
    exact CosmeticFilter.isRead_of_parseChars hline

namespace Engine

variable {engine : Engine} {suffixes : Option Domain.PublicSuffixes} {query : CosmeticQuery}

/-- A rule comes from a filter that applies to the page, and no exception takes it away: none of those that
the query comes by, which on a host in lower case are all that apply to it. -/
structure Shows (suffixes : Option Domain.PublicSuffixes) (engine : Engine) (query : CosmeticQuery)
    (rule : PageRule) (filter : CosmeticFilter) : Prop where
  member : ∃ list ∈ engine.lists, filter ∈ list.cosmetic
  applies : filter.appliesTo suffixes query.hostname.toList = .ok true
  made : filter.rule? = some rule
  unhide : filter.unhide = false
  spared : ∀ filters, engine.collectCosmetics suffixes query = .ok filters →
    ∀ other ∈ filters, other.cancels rule = false
  unexcepted : Text.lower query.hostname.toList = query.hostname.toList →
    ∀ list ∈ engine.lists, ∀ other ∈ list.cosmetic,
      other.appliesTo suffixes query.hostname.toList = .ok true → other.cancels rule = false

/-- The rules that an answer is made of are those of filters that the page is shown with. -/
theorem exists_shows {filters : List CosmeticFilter} {switches : CosmeticSwitches} {rule : PageRule}
    (hread : ∀ list ∈ engine.lists, ∀ filter ∈ list.cosmetic, filter.IsRead)
    (hfilters : engine.collectCosmetics suffixes query = .ok filters)
    (hrule : rule ∈ (CosmeticMatch.made query switches filters).filter
      (CosmeticMatch.spares switches (.of filters))) :
    ∃ filter, filter.IsRead ∧ engine.Shows suffixes query rule filter := by
  have hreadOwn : ∀ filter ∈ filters, filter.IsRead := by
    intro filter hfilter
    obtain ⟨list, hlist, hfilter, -⟩ := exists_of_mem_collectCosmetics hfilters hfilter
    exact hread list hlist filter hfilter
  obtain ⟨hmade, hspared⟩ := List.mem_filter.1 hrule
  obtain ⟨⟨filter, hfilter, hrule, hunhide, -⟩, -⟩ := (CosmeticMatch.mem_made hreadOwn).1 hmade
  obtain ⟨list, hlist, hmem, happlies⟩ := exists_of_mem_collectCosmetics hfilters hfilter
  rw [CosmeticMatch.spares_of, Bool.and_eq_true, Bool.not_eq_true', Bool.not_eq_true',
    List.any_eq_false] at hspared
  have hspares : ∀ other ∈ filters, other.cancels rule = false :=
    fun other hother => Bool.eq_false_iff.2 (hspared.2 other hother)
  refine ⟨filter, hreadOwn filter hfilter, ⟨list, hlist, hmem⟩, happlies, hrule, hunhide,
    fun filters' hfilters' => ?_, fun hlow list hlist other hother happlies => ?_⟩
  · cases hfilters.symm.trans hfilters'
    exact hspares
  · rw [← Bool.not_eq_true]
    intro hcancels
    have hmem := mem_collectCosmetics_of_isWanted hlow hfilters hlist hother
      (hread list hlist other hother).wellFormed happlies
      (CosmeticFilter.isWanted_of_unhide (Bool.and_eq_true_iff.1 hcancels).1)
    exact Bool.eq_false_iff.1 (hspares other hmem) hcancels

/-- A style sheet is made of blocks. Its braces open and close by turns, so as many open as close, and none
of them is from the text of a filter. Inside of the braces stand the declarations to hide elements or those
of one filter, before them the selectors of filters: each of them applies to the page, and no exception is
for its rule. Queries about a page, whose host is in lower case, are answered if it is of single bytes. -/
theorem styles_in_blocks {engine : Engine} (hlists : ∀ list ∈ engine.lists, list.IsOfText)
    (suffixes : Option Domain.PublicSuffixes) (query : CosmeticQuery) :
    (query.hostname = (CosmeticQuery.ofUrl query.url).hostname →
      Text.lower query.hostname.toList = query.hostname.toList ∧
        (IsAscii query.hostname.toList → ∃ found, engine.matchCosmetics suffixes query = .ok found)) ∧
    ∀ found, engine.matchCosmetics suffixes query = .ok found →
      ∃ blocks : List StyleBlock, found.styles.toList = blocks.flatMap (·.text) ∧
        found.styles.toList.filter isBrace = (List.replicate blocks.length ['{', '}']).flatten ∧
        ∀ block ∈ blocks, block.IsPlain ∧
          block.ComesFrom fun rule => ∃ filter, engine.Shows suffixes query rule filter := by
  have hread : ∀ list ∈ engine.lists, ∀ filter ∈ list.cosmetic, filter.IsRead :=
    fun list hlist => (hlists list hlist).isRead
  refine ⟨fun hpage => ?_, fun found hfound => ?_⟩
  · have hname : query.hostname.toList = Url.hostName query.url.toList := by
      rw [hpage, CosmeticQuery.ofUrl, String.toList_ofList]
    rw [hname]
    exact ⟨Text.lower_lower _, fun hhost => exists_matchCosmetics_of_ascii hpage hhost⟩
  · obtain ⟨candidates, -, hfound⟩ := ok_of_bind hfound
    obtain ⟨filters, hfilters, hfound⟩ := ok_of_bind hfound
    cases hfound
    rw [CosmeticMatch.resolve_eq_ofRules]
    generalize hrules : (CosmeticMatch.made query (.of candidates) filters).filter
      (CosmeticMatch.spares (.of candidates) (.of filters)) = rules
    have hshown : ∀ rule ∈ rules, ∃ filter, filter.IsRead ∧ engine.Shows suffixes query rule filter := by
      intro rule hrule
      rw [← hrules] at hrule
      exact exists_shows hread hfilters hrule
    have hblocks : ∀ block ∈ StyleBlock.ofRules (distinct (rules.filterMap (·.hidden?)))
        (rules.filterMap (·.style?)), block.IsPlain ∧
          block.ComesFrom fun rule => ∃ filter, engine.Shows suffixes query rule filter := by
      apply StyleBlock.forall_mem_ofRules
      · intro selector hselector
        obtain ⟨rule, hrule, hview⟩ := List.mem_filterMap.1 (mem_distinct.1 hselector)
        obtain rfl := PageRule.hidden?_eq_some.1 hview
        obtain ⟨filter, hisRead, hshows⟩ := hshown _ hrule
        obtain ⟨hkind, rfl⟩ := CosmeticFilter.rule?_eq_hide.1 hshows.made
        exact ⟨⟨filter, hshows⟩, hisRead.fitsBlock.hide hkind⟩
      · intro pair hpair
        obtain ⟨rule, hrule, hview⟩ := List.mem_filterMap.1 hpair
        obtain rfl := PageRule.style?_eq_some.1 hview
        obtain ⟨filter, hisRead, hshows⟩ := hshown _ hrule
        obtain ⟨hkind, hselector⟩ := CosmeticFilter.rule?_eq_style.1 hshows.made
        have hfits := hisRead.fitsBlock.style pair.2 hkind
        rw [hselector] at hfits
        exact ⟨⟨filter, hshows⟩, hfits⟩
    refine ⟨_, StyleBlock.toList_styleSheet _ _, ?_, hblocks⟩
    rw [← StyleBlock.filter_flatMap_text fun block hblock => (hblocks block hblock).1]
    exact congrArg (List.filter isBrace) (StyleBlock.toList_styleSheet _ _)

/-- A list, and a text of the user's own with lines that would close a block and open one. -/
def breakingOut : Engine :=
  ⟨[⟨0, (FilterList.parse "ads" "##.ad\na.com##.box").1⟩,
    ⟨1, CustomFilters.listOf "a.com##p:style(color: red)\na.com##.x\x7b\x7dbody\na.com##.y:style(a\x7d b\x7bc)" false⟩]⟩

theorem styles_in_blocks_breakingOut : ∃ found,
    breakingOut.matchCosmetics none (.whole "https://www.a.com/" ["ad"] [] []) = .ok found ∧
    ∃ blocks : List StyleBlock, found.styles.toList = blocks.flatMap (·.text) ∧
      found.styles.toList.filter isBrace = (List.replicate blocks.length ['{', '}']).flatten ∧
      ∀ block ∈ blocks, block.IsPlain ∧ block.ComesFrom fun rule => ∃ filter,
        breakingOut.Shows none (.whole "https://www.a.com/" ["ad"] [] []) rule filter := by
  have hlists : ∀ list ∈ breakingOut.lists, list.IsOfText := by
    refine List.forall_mem_cons.2 ⟨.inl (.parse "ads" _), List.forall_mem_singleton.2 (.inr ⟨_, false, rfl⟩)⟩
  obtain ⟨hpage, hblocks⟩ := styles_in_blocks hlists none (.whole "https://www.a.com/" ["ad"] [] [])
  obtain ⟨found, hfound⟩ := (hpage rfl).2 (by decide +kernel)
  exact ⟨found, hfound, hblocks found hfound⟩

end Engine

end ContentFilter
