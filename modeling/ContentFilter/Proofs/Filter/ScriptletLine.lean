import ContentFilter.Proofs.Filter.Arguments
import ContentFilter.Proofs.Filter.Body

/-! Lines that call a scriptlet, with another spelling of its name. The name is read from the first argument;
in quotes it can be written with the ending or without, whatever stands around it in the line. -/

namespace ContentFilter.CosmeticFilter

theorem parseBody_call {unhide extended : Bool} {args : List Char}
    (h : unhide = false → (parseCall args).name ≠ "") :
    parseBody unhide extended ("+js(".toList ++ args ++ [')']) = .ok (.scriptlet (parseCall args), "") := by
  have hstart : Text.dropStart? "+js(" ("+js(".toList ++ args ++ [')']) = some (args ++ [')']) := by
    rw [List.append_assoc, Text.dropStart?_append]
  have hend : Text.dropEnd? ")" (args ++ [')']) = some args := Text.dropEnd?_eq_some.2 rfl
  have hnamed : ((parseCall args).name.isEmpty && !unhide) = false := by
    cases unhide with
    | true => exact Bool.and_false _
    | false => simpa using h
  unfold parseBody
  dsimp only
  rw [hstart]
  dsimp only
  rw [hend]
  dsimp only
  rw [hnamed]
  rfl

/-- What stands before the arguments of a call. -/
def callFront (hosts : List Char) (sep : Separator) (gap : List Char) : List Char :=
  hosts ++ (sep.text.toList ++ (gap ++ "+js(".toList))

/-- A line with a call, cut into its parts. -/
structure IsCallLine (filter : CosmeticFilter) (line hosts : List Char) (sep : Separator)
    (gap args : List Char) : Prop where
  split : Text.trim line = callFront hosts sep gap ++ args ++ [')']
  known : sep ∈ separators
  gap : ∀ c ∈ gap, Text.isBlank c = true
  names : ∃ names, parseHostnames hosts = .ok names ∧
    filter.hostnames = (names.filter (!·.1)).map (·.2) ∧
    filter.notHostnames = (names.filter (·.1)).map (·.2)
  unhide : filter.unhide = sep.unhide
  kind : filter.kind = .scriptlet (parseCall args)
  selector : filter.selector = ""

variable {filter : CosmeticFilter} {line hosts gap args others : List Char} {sep : Separator}

theorem exists_isCallLine {call : ScriptletCall} (h : parseChars line = .ok filter)
    (hcall : filter.kind = .scriptlet call) :
    ∃ hosts sep gap args, filter.IsCallLine line hosts sep gap args ∧ call = parseCall args := by
  obtain ⟨hosts, sep, body, hsplit⟩ := exists_isSplit h
  have hbody := hsplit.isBody
  rw [hcall] at hbody
  generalize hselector : filter.selector = selector at hbody
  cases hbody with
  | @call args htrim hnamed =>
    have hcut := hsplit.cut
    rw [raw_of_parseChars h, String.toList_ofList] at hcut
    obtain ⟨hline, hsep⟩ := eq_append_of_cutSeparator? hcut
    obtain ⟨blanks, hblanks, hback⟩ := Text.exists_blanks (Text.trimStart body)
    have hstart : body = body.takeWhile Text.isBlank ++ ("+js(".toList ++ args ++ [')'] ++ blanks) := by
      rw [← htrim]
      change body = _ ++ (Text.trimEnd (Text.trimStart body) ++ blanks)
      rw [hback]
      exact List.takeWhile_append_dropWhile.symm
    -- the line has no blanks at its end, so the body has none
    have hnone : blanks = [] := by
      rcases List.eq_nil_or_concat blanks with hnil | ⟨front, c, rfl⟩
      · exact hnil
      · have hlast : (Text.trim line).getLast? = some c := by
          rw [hline, hstart, List.concat_eq_append]
          simp only [← List.append_assoc]
          exact List.getLast?_concat
        have hblank := hblanks c (by simp)
        rw [Text.not_blank_of_getLast?_trim hlast] at hblank
        cases hblank
    refine ⟨hosts, sep, body.takeWhile Text.isBlank, args, ⟨?_, hsep, fun c => List.mem_takeWhile_imp,
      hsplit.names, hsplit.unhide, hcall, hselector⟩, rfl⟩
    rw [hline]
    conv_lhs => rw [hstart, hnone]
    simp [callFront]

namespace IsCallLine

/-- With other arguments in it the line has no blanks at its ends either. -/
theorem trim_front (h : filter.IsCallLine line hosts sep gap args) (others : List Char) :
    Text.trim (callFront hosts sep gap ++ others ++ [')']) = callFront hosts sep gap ++ others ++ [')'] := by
  have hne : callFront hosts sep gap ≠ [] := by simp [callFront]
  apply Text.trim_of_ends
  · intro c hc
    refine Text.not_blank_of_head?_trim (s := line) ?_
    rw [List.append_assoc, List.head?_append_of_ne_nil _ hne] at hc
    rw [h.split, List.append_assoc, List.head?_append_of_ne_nil _ hne, hc]
  · intro c hc
    rw [List.getLast?_concat] at hc
    rw [← Option.some.inj hc]
    decide

/-- Other arguments make a call for the same pages. -/
theorem parseChars_front (h : filter.IsCallLine line hosts sep gap args)
    (hnamed : filter.unhide = false → (parseCall others).name ≠ "") :
    parseChars (callFront hosts sep gap ++ others ++ [')']) = .ok
      { filter with
        raw := String.ofList (callFront hosts sep gap ++ others ++ [')'])
        kind := .scriptlet (parseCall others) } := by
  obtain ⟨names, hnames, hhostnames, hnot⟩ := h.names
  have hbody : Text.trim (gap ++ ("+js(".toList ++ others ++ [')'])) = "+js(".toList ++ others ++ [')'] := by
    have htrim := @Text.trim_append gap ("+js(".toList ++ others ++ [')']) [] h.gap (List.forall_mem_nil _)
      (fun c hc => by rw [← Option.some.inj hc]; decide)
      (fun c hc => by rw [List.getLast?_concat] at hc; rw [← Option.some.inj hc]; decide) (by simp)
    rwa [List.append_nil] at htrim
  have hcut := cutSeparator?_append (not_mem_of_parseHostnames hnames) h.known
    (gap ++ ("+js(".toList ++ others ++ [')']))
  have hline : hosts ++ (sep.text.toList ++ (gap ++ ("+js(".toList ++ others ++ [')']))) =
      callFront hosts sep gap ++ others ++ [')'] := by
    simp [callFront]
  rw [hline] at hcut
  rw [h.unhide] at hnamed
  rw [parseChars, h.trim_front]
  dsimp only
  rw [hcut]
  dsimp only
  rw [hnames, hbody, parseBody_call hnamed, hhostnames, hnot, h.unhide, h.selector]
  rfl

end IsCallLine

end ContentFilter.CosmeticFilter

namespace ContentFilter.Filter

/-- Marks of lines that are not supported. -/
def unsupportedMarks : List String := ["#$#", "#@$#", "#%#", "$$"]

theorem typeOf_eq_cosmetic {line : List Char} : typeOf line = .cosmetic ↔
    (∀ mark ∈ unsupportedMarks, ¬ mark.toList <:+: line) ∧
      ∃ sep ∈ CosmeticFilter.separators, sep.text.toList <:+: line := by
  have hmarks : unsupportedMarks.any (fun mark => Text.contains mark line) = false ↔
      ∀ mark ∈ unsupportedMarks, ¬ mark.toList <:+: line := by
    simp only [List.any_eq_false, Text.contains_iff]
  have hseparators : (["##", "#@#", "#?#", "#@?#"].any fun mark => Text.contains mark line) = true ↔
      ∃ sep ∈ CosmeticFilter.separators, sep.text.toList <:+: line := by
    simp only [List.any_eq_true, Text.contains_iff, CosmeticFilter.separators, List.exists_mem_cons_iff]
    grind
  rw [← hmarks, ← hseparators, typeOf]
  change (if unsupportedMarks.any _ = true then _ else _) = _ ↔ _
  split
  · next h => simp [h]
  · next h =>
    rw [Bool.not_eq_true] at h
    split <;> simp_all

/-- Whether a line is a comment shows in its first four characters. -/
theorem isComment_append {front back other : List Char} (hlong : 4 ≤ front.length)
    (htrim : Text.trim (front ++ back) = front ++ back) (hother : Text.trim (front ++ other) = front ++ other) :
    isComment (front ++ other) = isComment (front ++ back) := by
  match front, hlong with
  | a :: b :: c :: d :: front, _ =>
    unfold isComment
    rw [htrim, hother]
    simp [Text.startsWith, List.isPrefixOf]

end ContentFilter.Filter

namespace ContentFilter

theorem ScriptletCall.exists_name_append (call : ScriptletCall) :
    ∃ ending, call.name.toList = call.canonicalName.toList ++ ending := by
  rw [canonicalName]
  split
  · next name hname => exact ⟨".js".toList, by rw [String.toList_ofList]; exact Text.dropEnd?_eq_some.1 hname⟩
  · exact ⟨[], (List.append_nil _).symm⟩

namespace CosmeticFilter

variable {filter : CosmeticFilter} {line hosts gap args others : List Char} {sep : Separator}

/-- A line with other arguments is read as the same filter with another call, if they make the line no
unsupported one. -/
theorem IsCallLine.filter_parseChars (h : filter.IsCallLine line hosts sep gap args)
    (hline : Filter.parseChars line = .ok (some (.cosmetic filter)))
    (hnamed : filter.unhide = false → (parseCall others).name ≠ "")
    (hmarks : ∀ mark ∈ Filter.unsupportedMarks,
      ¬ mark.toList <:+: callFront hosts sep gap ++ others ++ [')']) :
    Filter.parseChars (callFront hosts sep gap ++ others ++ [')']) = .ok (some (.cosmetic
      { filter with
        raw := String.ofList (callFront hosts sep gap ++ others ++ [')'])
        kind := .scriptlet (parseCall others) })) := by
  obtain ⟨hcomment, -, -⟩ := Filter.parseChars_eq_cosmetic.1 hline
  have hlong : 4 ≤ (callFront hosts sep gap).length := by
    simp [callFront]
    omega
  have htrim := h.trim_front others
  refine Filter.parseChars_eq_cosmetic.2 ⟨?_, ?_, h.parseChars_front hnamed⟩
  · rw [h.split, List.append_assoc] at hcomment
    rw [htrim, List.append_assoc, ← hcomment]
    rw [List.append_assoc] at htrim
    refine Filter.isComment_append hlong ?_ htrim
    rw [← List.append_assoc, ← h.split, Text.trim_trim]
  · rw [htrim]
    refine Filter.typeOf_eq_cosmetic.2 ⟨hmarks, sep, h.known, ?_⟩
    exact ⟨hosts, gap ++ "+js(".toList ++ others ++ [')'], by simp [callFront]⟩

/-- A text that has nothing of a quote or of the ending of a name. -/
def IsApart (part : List Char) : Prop :=
  part ≠ [] ∧ '"' ∉ part ∧ '.' ∉ part ∧ ¬ part <:+: ['j', 's']

/-- What stands in a line with a source in quotes for its name stands in the line that the source is from. -/
theorem infix_of_quoted {part front source tail back : List Char} {ending : String} (hapart : IsApart part)
    (hending : ending = "" ∨ ending = ".js") (hsource : source <:+: args) (htail : tail <:+ args)
    (h : part <:+: front ++ ('"' :: source ++ (ending.toList ++ '"' :: tail)) ++ back) :
    part <:+: front ++ args ++ back := by
  obtain ⟨hne, hquote, hpoint, hletters⟩ := hapart
  have hinside : source <:+: front ++ args ++ back := hsource.trans (List.infix_append front args back)
  have hpieces : front ++ ('"' :: source ++ (ending.toList ++ '"' :: tail)) ++ back =
      ['"'].intercalate [front, source ++ ending.toList, tail ++ back] := by
    simp [List.intercalate]
  rw [hpieces] at h
  obtain ⟨piece, hpiece, hpart⟩ := Text.infix_of_infix_intercalate hne hquote h
  simp only [List.mem_cons, List.not_mem_nil, or_false] at hpiece
  rcases hpiece with rfl | rfl | rfl
  · rw [List.append_assoc]
    exact hpart.trans (List.prefix_append piece _).isInfix
  · obtain rfl | rfl := hending
    · rw [String.toList_empty, List.append_nil] at hpart
      exact hpart.trans hinside
    · have hsplit : source ++ ".js".toList = ['.'].intercalate [source, ['j', 's']] := by
        simp [List.intercalate]
      rw [hsplit] at hpart
      obtain ⟨half, hhalf, hstands⟩ := Text.infix_of_infix_intercalate hne hpoint hpart
      rcases List.mem_pair.1 hhalf with rfl | rfl
      · exact hstands.trans hinside
      · exact absurd hstands hletters
  · obtain ⟨before, rfl⟩ := htail
    rw [List.append_assoc, List.append_assoc]
    exact hpart.trans (List.suffix_append_of_suffix (List.suffix_append before _)).isInfix

/-- The name of a call can be written with the ending and without, in a line that is the same filter
otherwise. -/
theorem exists_respelled {call : ScriptletCall} (hline : Filter.parseChars line = .ok (some (.cosmetic filter)))
    (hcall : filter.kind = .scriptlet call) (hbreak : '\n' ∉ line) (hnamed : call.canonicalName ≠ "")
    {ending : String} (hending : ending = "" ∨ ending = ".js") :
    ∃ other, '\n' ∉ other ∧ Filter.parseChars other = .ok (some (.cosmetic
      { filter with
        raw := String.ofList other
        kind := .scriptlet ⟨call.canonicalName ++ ending, call.args⟩ })) := by
  obtain ⟨hosts, sep, gap, args, hparts, rfl⟩ :=
    exists_isCallLine (Filter.cosmetic_of_parseChars hline) hcall
  obtain ⟨back, hname⟩ := (parseCall args).exists_name_append
  obtain ⟨source, tail, hsource, htail, hspells, hcomma, hargs⟩ := exists_source_of_name hname
  have hplain : ∀ c ∈ ending.toList, IsPlainChar c := by
    obtain rfl | rfl := hending
    · simp
    · simp [IsPlainChar]
  have hothers : parseCall ('"' :: source ++ (ending.toList ++ '"' :: tail)) =
      ⟨(parseCall args).canonicalName ++ ending, (parseCall args).args⟩ := by
    rw [parseCall_quoted hspells hplain hcomma, hargs, ← String.toList_append, String.ofList_toList]
  have hothersName : (parseCall ('"' :: source ++ (ending.toList ++ '"' :: tail))).name ≠ "" := by
    rw [hothers]
    intro hempty
    exact hnamed (String.append_eq_empty_iff.1 hempty).1
  -- a mark or a line feed in the new line would be one in the old line too
  have hold : ∀ part, IsApart part →
      part <:+: callFront hosts sep gap ++ ('"' :: source ++ (ending.toList ++ '"' :: tail)) ++ [')'] →
        part <:+: Text.trim line := by
    intro part hapart hpart
    rw [hparts.split]
    exact infix_of_quoted hapart hending hsource htail hpart
  refine ⟨_, fun hmem => ?_, hothers ▸ hparts.filter_parseChars hline (fun _ => hothersName) ?_⟩
  · have hapart : IsApart ['\n'] := by
      unfold IsApart
      decide
    have hstands := hold ['\n'] hapart ((List.singleton_infix_iff _ _).2 hmem)
    exact hbreak ((Text.trim_infix line).subset ((List.singleton_infix_iff _ _).1 hstands))
  · have hapart : ∀ mark ∈ Filter.unsupportedMarks, IsApart mark.toList := by
      unfold IsApart
      decide
    intro mark hmark hpart
    obtain ⟨hmarks, -⟩ := Filter.typeOf_eq_cosmetic.1 (Filter.parseChars_eq_cosmetic.1 hline).2.1
    exact hmarks mark hmark (hold mark.toList (hapart mark hmark) hpart)

end CosmeticFilter

end ContentFilter

/-! Texts of lists in which calls of scriptlets are spelled in another way, the name with its ending or
without. -/

namespace ContentFilter

namespace ScriptletCall

variable {call other : ScriptletCall}

/-- The call with the name without its ending. -/
def canonical (call : ScriptletCall) : ScriptletCall := ⟨call.canonicalName, call.args⟩

/-- The name ends in what is optional. -/
def HasEnding (call : ScriptletCall) : Prop := ".js".toList <:+ call.name.toList

/-- The call can be written with the ending and without: it has a name, and no ending of its own. -/
def HasSpellings (call : ScriptletCall) : Prop := call.name ≠ "" ∧ ¬ call.HasEnding

theorem canonicalName_append (name : String) (args : List String) :
    canonicalName ⟨name ++ ".js", args⟩ = name := by
  have hend : Text.dropEnd? ".js" (name ++ ".js").toList = some name.toList := by
    rw [String.toList_append]
    exact Text.dropEnd?_eq_some.2 rfl
  rw [canonicalName]
  dsimp only
  rw [hend]
  exact String.ofList_toList

theorem canonicalName_eq_self (h : ¬ call.HasEnding) : call.canonicalName = call.name := by
  rw [canonicalName]
  split
  · next name hname => exact absurd ⟨name, (Text.dropEnd?_eq_some.1 hname).symm⟩ h
  · rfl

/-- A call without a name is for all calls, and has no other spelling. -/
theorem not_hasSpellings_of_empty (h : call.name = "") : ¬ call.canonical.HasSpellings := by
  have hnone : ¬ call.HasEnding := by
    rw [HasEnding, h]
    decide
  intro hspellings
  exact hspellings.1 ((canonicalName_eq_self hnone).trans h)

theorem name_eq_append (h : call.HasEnding) : call.name = call.canonicalName ++ ".js" := by
  obtain ⟨name, hname⟩ := h
  have hcall : call.name = String.ofList name ++ ".js" := by
    rw [← String.toList_inj, String.toList_append, String.toList_ofList, hname]
  have hcanonical := canonicalName_append (String.ofList name) call.args
  rw [← hcall] at hcanonical
  rw [show call.canonicalName = String.ofList name from hcanonical]
  exact hcall

theorem HasSpellings.canonical_append (h : call.HasSpellings) {ending : String}
    (hending : ending = "" ∨ ending = ".js") : canonical ⟨call.name ++ ending, call.args⟩ = call := by
  obtain rfl | rfl := hending
  · rw [String.append_empty, canonical, canonicalName_eq_self h.2]
  · rw [canonical, canonicalName_append]

/-- Only one ending is optional: behind it another one belongs to the name. -/
theorem canonical_append_eq_iff :
    canonical ⟨call.name ++ ".js", call.args⟩ = call.canonical ↔ ¬ call.HasEnding := by
  rw [canonical, canonical, canonicalName_append]
  constructor
  · intro h hending
    have hlength := congrArg String.length (name_eq_append hending)
    rw [(ScriptletCall.mk.inj h).1, String.length_append] at hlength
    have hpos : 0 < ".js".length := by decide
    omega
  · intro h
    rw [canonicalName_eq_self h]

/-- A call that stands for no call with spellings is spelled in one way. -/
theorem eq_of_canonical_eq (h : call.canonical = other.canonical) (hnamed : call.canonical.name ≠ "")
    (hone : ¬ call.canonical.HasSpellings) : call = other := by
  have hending : call.canonical.HasEnding := by
    by_contra hnone
    exact hone ⟨hnamed, hnone⟩
  -- a name that keeps an ending has lost another one
  have hspelled : ∀ one : ScriptletCall, one.canonical.HasEnding → one.name = one.canonical.name ++ ".js" := by
    intro one hone
    apply name_eq_append
    by_contra hnone
    rw [HasEnding, canonical, canonicalName_eq_self hnone] at hone
    exact hnone hone
  have hname : call.name = other.name := by
    rw [hspelled call hending, hspelled other (h ▸ hending), h]
  have hargs : call.args = other.args := (ScriptletCall.mk.inj h).2
  cases call
  cases other
  cases hname
  cases hargs
  rfl

end ScriptletCall

namespace CosmeticFilter

variable {filter other : CosmeticFilter}

/-- The call of a filter without the ending of its name. -/
def canonicalCall? (filter : CosmeticFilter) : Option ScriptletCall := filter.scriptlet?.map (·.canonical)

/-- The filter with another spelling of its call, which has a name without the ending too. -/
inductive Respells (filter : CosmeticFilter) : CosmeticFilter → Prop
  | same : Respells filter filter
  | call {call other : ScriptletCall} (raw : String) (hcall : filter.kind = .scriptlet call)
      (hcanonical : other.canonical = call.canonical) (hnamed : call.canonical.name ≠ "") :
      Respells filter { filter with raw, kind := .scriptlet other }

/-- A call that stands for the pair is spelled with the ending that is wanted of filters like this one. -/
def IsSpelled (pair : ScriptletCall) (ending : Bool → String) (filter : CosmeticFilter) : Prop :=
  ∀ call, filter.scriptlet? = some call → call.canonical = pair →
    call = ⟨pair.name ++ ending filter.unhide, pair.args⟩

theorem scriptlet?_eq_some {call : ScriptletCall} :
    filter.scriptlet? = some call ↔ filter.kind = .scriptlet call := by
  rw [scriptlet?]
  cases filter.kind <;> simp

theorem canonicalCall?_of_scriptlet? {call : ScriptletCall} (h : filter.scriptlet? = some call) :
    filter.canonicalCall? = some call.canonical := by
  rw [canonicalCall?, h]
  rfl

namespace Respells

theorem symm (h : filter.Respells other) : other.Respells filter := by
  cases h with
  | same => exact .same
  | @call call other raw hcall hcanonical hnamed =>
    have hback : ({ filter with raw := filter.raw, kind := .scriptlet call } : CosmeticFilter) = filter := by
      rw [← hcall]
    rw [← hcanonical] at hnamed
    have hrespells : Respells { filter with raw, kind := .scriptlet other }
        { filter with raw := filter.raw, kind := .scriptlet call } :=
      .call filter.raw rfl hcanonical.symm hnamed
    rwa [hback] at hrespells

theorem unhide (h : filter.Respells other) : other.unhide = filter.unhide := by
  cases h <;> rfl

theorem canonicalCall? (h : filter.Respells other) : other.canonicalCall? = filter.canonicalCall? := by
  cases h with
  | same => rfl
  | call raw hcall hcanonical hnamed =>
    simp [CosmeticFilter.canonicalCall?, scriptlet?, hcall, hcanonical]

/-- A call without spellings stays as it is. -/
theorem scriptlet?_eq {pair : ScriptletCall} (h : filter.Respells other)
    (hpair : filter.canonicalCall? = some pair) (hone : ¬ pair.HasSpellings) :
    other.scriptlet? = filter.scriptlet? := by
  cases h with
  | same => rfl
  | @call call other raw hcall hcanonical hnamed =>
    have hscriptlet := scriptlet?_eq_some.2 hcall
    obtain rfl := Option.some.inj ((canonicalCall?_of_scriptlet? hscriptlet).symm.trans hpair)
    obtain rfl := ScriptletCall.eq_of_canonical_eq hcanonical.symm hnamed hone
    rw [hscriptlet]
    rfl

theorem scriptlet?_of_empty {call : ScriptletCall} (h : filter.Respells other)
    (hcall : filter.scriptlet? = some call) (hempty : call.name = "") : other.scriptlet? = some call := by
  rw [h.scriptlet?_eq (canonicalCall?_of_scriptlet? hcall), hcall]
  exact ScriptletCall.not_hasSpellings_of_empty hempty

theorem appliesTo (h : filter.Respells other) (suffixes : Option Domain.PublicSuffixes) (host : List Char) :
    other.appliesTo suffixes host = filter.appliesTo suffixes host := by
  cases h <;> rfl

end Respells

end CosmeticFilter

namespace ParsedList

/-- The lines are the same or have filters that differ in the spelling of a call. -/
inductive RespellsLine (line : List Char) : List Char → Prop
  | same : RespellsLine line line
  | call {respelled : List Char} {filter other : CosmeticFilter}
      (hline : Filter.parseChars line = .ok (some (.cosmetic filter)))
      (hrespelled : Filter.parseChars respelled = .ok (some (.cosmetic other)))
      (hfilter : filter.Respells other) : RespellsLine line respelled

/-- The texts have the same lines but for the spelling of calls. -/
def RespellsText (text respelled : String) : Prop :=
  List.Forall₂ RespellsLine (Text.lines text.toList) (Text.lines respelled.toList)

theorem ofLines_respells {lines respelled : List (List Char)} (h : List.Forall₂ RespellsLine lines respelled)
    (number : Nat) : (ofLines number respelled).network = (ofLines number lines).network ∧
      List.Forall₂ CosmeticFilter.Respells (ofLines number lines).cosmetic
        (ofLines number respelled).cosmetic := by
  induction h generalizing number with
  | nil => exact ⟨rfl, .nil⟩
  | @cons line other lines respelled hline _ ih =>
    obtain ⟨hnetwork, hcosmetic⟩ := ih (number + 1)
    rw [ofLines, ofLines, add, add]
    cases hline with
    | same =>
      split
      · exact ⟨congrArg (List.cons _) hnetwork, hcosmetic⟩
      · exact ⟨hnetwork, .cons .same hcosmetic⟩
      · exact ⟨hnetwork, hcosmetic⟩
      · exact ⟨hnetwork, hcosmetic⟩
    | call hline hother hfilter =>
      rw [hline, hother]
      exact ⟨hnetwork, .cons hfilter hcosmetic⟩

/-- Whatever endings are wanted of the calls of filters and of those of exceptions, a line can be written with
them. -/
theorem exists_respellsLine {pair : ScriptletCall} (hspellings : pair.HasSpellings) {ending : Bool → String}
    (hending : ∀ unhide, ending unhide = "" ∨ ending unhide = ".js") {line : List Char} (hbreak : '\n' ∉ line) :
    ∃ respelled, '\n' ∉ respelled ∧ RespellsLine line respelled ∧ ∀ filter,
      Filter.parseChars respelled = .ok (some (.cosmetic filter)) → filter.IsSpelled pair ending := by
  by_cases hcall : ∃ filter, Filter.parseChars line = .ok (some (.cosmetic filter)) ∧
      filter.canonicalCall? = some pair
  · obtain ⟨filter, hline, hcall⟩ := hcall
    obtain ⟨call, hscriptlet, rfl⟩ := Option.map_eq_some_iff.1 hcall
    have hkind := CosmeticFilter.scriptlet?_eq_some.1 hscriptlet
    obtain ⟨respelled, hbreak, hparse⟩ := CosmeticFilter.exists_respelled hline hkind hbreak hspellings.1
      (hending filter.unhide)
    have hrespells := CosmeticFilter.Respells.call (String.ofList respelled) hkind
      (hspellings.canonical_append (hending filter.unhide)) hspellings.1
    refine ⟨respelled, hbreak, .call hline hparse hrespells, ?_⟩
    intro other hother call' hcall' _
    cases hparse.symm.trans hother
    cases hcall'
    rfl
  · refine ⟨line, hbreak, .same, fun filter hline call hfilter hpair => ?_⟩
    exact absurd ⟨filter, hline, hpair ▸ CosmeticFilter.canonicalCall?_of_scriptlet? hfilter⟩ hcall

theorem exists_respellsText {pair : ScriptletCall} (hspellings : pair.HasSpellings) {ending : Bool → String}
    (hending : ∀ unhide, ending unhide = "" ∨ ending unhide = ".js") (text : String) :
    ∃ respelled, RespellsText text respelled ∧ ∀ filter ∈ (parse respelled).cosmetic,
      filter.IsSpelled pair ending := by
  have hlines : ∀ line ∈ Text.lines text.toList, ∃ respelled, '\n' ∉ respelled ∧ RespellsLine line respelled ∧
      ∀ filter, Filter.parseChars respelled = .ok (some (.cosmetic filter)) → filter.IsSpelled pair ending :=
    fun line hline => exists_respellsLine hspellings hending (Text.not_mem_of_mem_lines hline)
  choose! respell hbreak hrespells hspelled using hlines
  have hjoined : Text.lines (((Text.lines text.toList).map respell).flatMap (· ++ ['\r', '\n'])) =
      (Text.lines text.toList).map respell :=
    Text.lines_flatMap (List.forall_mem_map.2 hbreak)
  refine ⟨String.ofList (((Text.lines text.toList).map respell).flatMap (· ++ ['\r', '\n'])), ?_, ?_⟩
  · rw [RespellsText, String.toList_ofList, hjoined, List.forall₂_map_right_iff, List.forall₂_same]
    exact hrespells
  · intro filter hfilter
    rw [parse, String.toList_ofList, hjoined, mem_cosmetic_iff, mem_filters_ofLines] at hfilter
    obtain ⟨respelled, hrespelled, hfilter⟩ := hfilter
    obtain ⟨line, hline, rfl⟩ := List.mem_map.1 hrespelled
    exact hspelled line hline filter hfilter

end ParsedList

end ContentFilter
