import ContentFilter.Proofs.Filter.HostFilter

/-! Options that restrict a filter to kinds of requests and to parties. What a list of them admits does not
depend on their order, and it is what requests are tested for. -/

namespace ContentFilter

namespace BitSet

/-- The set holds the indices of what has the property. -/
def IsSetOf {α : Type} (index : α → Nat) (P : α → Prop) (s : BitSet) : Prop :=
  ∀ i, s.mem i = true ↔ ∃ a, index a = i ∧ P a

variable {α : Type} {index : α → Nat} {P Q : α → Prop} {s t : BitSet}

@[simp] theorem union_empty (s : BitSet) : s.union .empty = s := by
  simp [union, empty]

theorem isSetOf_empty (index : α → Nat) : IsSetOf index (fun _ => False) .empty := by
  intro i
  simp

theorem isSetOf_single (a : α) : IsSetOf index (· = a) (.single (index a)) := by
  intro i
  simp

theorem IsSetOf.union (hs : IsSetOf index P s) (ht : IsSetOf index Q t) :
    IsSetOf index (fun a => P a ∨ Q a) (s.union t) := by
  intro i
  rw [mem_union, Bool.or_eq_true, hs, ht]
  simp only [and_or_left, exists_or]

theorem IsSetOf.without (hs : IsSetOf index P s) (ht : IsSetOf index Q t)
    (hindex : Function.Injective index) : IsSetOf index (fun a => P a ∧ ¬ Q a) (s.without t) := by
  intro i
  rw [mem_without, Bool.and_eq_true, Bool.not_eq_true', ← Bool.not_eq_true, hs, ht]
  constructor
  · rintro ⟨⟨a, rfl, ha⟩, hnot⟩
    exact ⟨a, rfl, ha, fun hother => hnot ⟨a, rfl, hother⟩⟩
  · rintro ⟨a, rfl, ha, hother⟩
    exact ⟨⟨a, rfl, ha⟩, fun ⟨b, hb, hq⟩ => hother (hindex hb ▸ hq)⟩

theorem IsSetOf.congr (hs : IsSetOf index P s) (h : ∀ a, P a ↔ Q a) : IsSetOf index Q s := by
  intro i
  rw [hs]
  simp only [h]

theorem IsSetOf.eq (hs : IsSetOf index P s) (ht : IsSetOf index P t) : s = t := by
  have hbits : s.bits = t.bits := Nat.eq_of_testBit_eq fun i => Bool.eq_iff_iff.2 ((hs i).trans (ht i).symm)
  cases s
  cases t
  exact congrArg mk hbits

theorem IsSetOf.mem_index (hs : IsSetOf index P s) (hindex : Function.Injective index) {a : α} :
    s.mem (index a) = true ↔ P a := by
  rw [hs]
  constructor
  · rintro ⟨b, hb, h⟩
    exact hindex hb ▸ h
  · exact fun h => ⟨a, rfl, h⟩

theorem IsSetOf.isEmpty_iff (hs : IsSetOf index P s) : s.isEmpty = true ↔ ∀ a, ¬ P a := by
  have hempty : s.isEmpty = true ↔ s = .empty := by
    cases s
    simp [isEmpty, empty]
  rw [hempty]
  constructor
  · rintro rfl a ha
    exact absurd ((hs (index a)).2 ⟨a, rfl, ha⟩) (by simp)
  · intro hnone
    exact hs.eq ((isSetOf_empty index).congr fun a => (iff_false_intro (hnone a)).symm)

end BitSet

open BitSet (IsSetOf)

theorem Kind.index_injective : Function.Injective Kind.index := by
  intro a b h
  cases a <;> cases b <;> first | rfl | cases h

theorem Kind.isSetOf_all : IsSetOf Kind.index (fun _ => True) Kind.all := by
  intro i
  constructor
  · intro h
    have hnamed : ∀ i < 13, ∃ pair ∈ browserNames, pair.1.index = i := by decide
    obtain ⟨⟨kind, _⟩, -, hkind⟩ := hnamed i (Kind.below_all i h)
    exact ⟨kind, hkind, trivial⟩
  · rintro ⟨kind, rfl, -⟩
    cases kind <;> decide

theorem Party.index_injective : Function.Injective Party.index := by
  intro a b h
  cases a <;> cases b <;> first | rfl | cases h

theorem Party.isSetOf_both : IsSetOf Party.index (fun _ => True) Party.both :=
  ((BitSet.isSetOf_single Party.first).union (BitSet.isSetOf_single Party.third)).congr fun party => by
    cases party <;> simp

namespace FilterOptions

/-- What an option can restrict a filter to. -/
inductive Subject where
  | kind (kind : Kind)
  | everyKind
  | party (party : Party)
  deriving DecidableEq, Repr

/-- The names of an option. -/
def Subject.names : Subject → List String
  | .kind .script => ["script"]
  | .kind .image => ["image"]
  | .kind .stylesheet => ["stylesheet", "css"]
  | .kind .object => ["object"]
  | .kind .subdocument => ["subdocument", "frame"]
  | .kind .mainFrame => ["document", "doc", "main_frame"]
  | .kind .xmlHttpRequest => ["xmlhttprequest", "xhr", "fetch"]
  | .kind .media => ["media"]
  | .kind .font => ["font"]
  | .kind .ping => ["ping", "beacon"]
  | .kind .websocket => ["websocket"]
  | .kind .cspReport => ["csp_report"]
  | .kind .other => ["other"]
  | .everyKind => ["all"]
  | .party .third => ["third-party", "thirdparty", "3p"]
  | .party .first => ["first-party", "firstparty", "1p"]

/-- An option that restricts a filter. -/
structure Restriction where
  negated : Bool
  subject : Subject
  deriving DecidableEq, Repr

/-- What stands before the name of a negated option. -/
def tilde (negated : Bool) : List Char := if negated then ['~'] else []

/-- The texts of an option: one of its names, after a tilde if it is negated, in any letter case. -/
def Restriction.WrittenAs (restriction : Restriction) (text : String) : Prop :=
  ∃ name ∈ restriction.subject.names,
    Text.lower text.toList = tilde restriction.negated ++ name.toList

instance (restriction : Restriction) (text : String) : Decidable (restriction.WrittenAs text) :=
  inferInstanceAs (Decidable (∃ name ∈ restriction.subject.names, _ = _))

/-- Options name a kind by itself or with all others. -/
def NamesKind (restrictions : List Restriction) (negated : Bool) (kind : Kind) : Prop :=
  ⟨negated, .everyKind⟩ ∈ restrictions ∨ ⟨negated, .kind kind⟩ ∈ restrictions

def NamesParty (restrictions : List Restriction) (negated : Bool) (party : Party) : Prop :=
  ⟨negated, .party party⟩ ∈ restrictions

instance (restrictions : List Restriction) (negated : Bool) (kind : Kind) :
    Decidable (NamesKind restrictions negated kind) :=
  inferInstanceAs (Decidable (_ ∨ _))

instance (restrictions : List Restriction) (negated : Bool) (party : Party) :
    Decidable (NamesParty restrictions negated party) :=
  inferInstanceAs (Decidable (_ ∈ restrictions))

theorem namesKind_cons {restriction : Restriction} {restrictions : List Restriction} {negated : Bool}
    {kind : Kind} : NamesKind (restriction :: restrictions) negated kind ↔
      NamesKind restrictions negated kind ∨ NamesKind [restriction] negated kind := by
  simp only [NamesKind, List.mem_cons, List.not_mem_nil, or_false]
  tauto

theorem namesParty_cons {restriction : Restriction} {restrictions : List Restriction} {negated : Bool}
    {party : Party} : NamesParty (restriction :: restrictions) negated party ↔
      NamesParty restrictions negated party ∨ NamesParty [restriction] negated party := by
  simp only [NamesParty, List.mem_cons, List.not_mem_nil, or_false]
  tauto

/-- Something is admitted when it is named, unless nothing is, and when its negation is not. -/
def Admits {α : Type} (named : Bool → α → Prop) (a : α) : Prop :=
  ((∃ b, named false b) → named false a) ∧ ¬ named true a

/-- The sets of what is named and of what is negated make up the set of what is admitted. -/
theorem mask_cases {α : Type} {index : α → Nat} (hindex : Function.Injective index)
    {named : Bool → α → Prop} {all inside outside : BitSet} (hall : IsSetOf index (fun _ => True) all)
    (hin : IsSetOf index (named false) inside) (hout : IsSetOf index (named true) outside) :
    (mask all inside outside = .error .emptyMask ∧ ∀ a, ¬ Admits named a) ∨
      ∃ set, mask all inside outside = .ok set ∧ (∃ a, Admits named a) ∧
        ∀ a, (set.isEmpty || set.mem (index a)) = true ↔ Admits named a := by
  unfold mask
  extract_lets base rest
  have hbase : IsSetOf index (fun a => (∃ b, named false b) → named false a) base := by
    simp only [base]
    split
    · next hnone =>
      rw [hin.isEmpty_iff] at hnone
      exact hall.congr fun a => iff_of_true trivial fun ⟨b, hb⟩ => absurd hb (hnone b)
    · next hsome =>
      rw [hin.isEmpty_iff, not_forall_not] at hsome
      exact hin.congr fun a => (imp_iff_right hsome).symm
  have hrest : IsSetOf index (Admits named) rest := hbase.without hout hindex
  split
  · next hempty => exact .inl ⟨rfl, hrest.isEmpty_iff.1 hempty⟩
  · next hsome =>
    refine .inr ⟨_, rfl, ?_, fun a => ?_⟩
    · rwa [hrest.isEmpty_iff, not_forall_not] at hsome
    · split
      · next hwhole =>
        have hall : Admits named a := (hrest.mem_index hindex).1 (hwhole ▸ (hall.mem_index hindex).2 trivial)
        exact iff_of_true rfl hall
      · rw [Bool.eq_false_iff.2 hsome, Bool.false_or, hrest.mem_index hindex]

variable {restriction : Restriction} {restrictions : List Restriction} {text : String} {draft : Draft}

theorem Subject.names_plain (subject : Subject) : ∀ name ∈ subject.names,
    name.toList.all NetworkFilter.isHostChar = true ∧ name.toList ≠ [] ∧
      ∀ negated, tilde negated ++ name.toList ≠ "csp".toList ∧
        flag? (String.ofList (tilde negated ++ name.toList)) = none := by
  rcases subject with kind | _ | party
  · cases kind <;> decide
  · decide
  · cases party <;> decide

theorem Subject.kinds?_names (kind : Kind) : ∀ name ∈ (Subject.kind kind).names,
    kinds? name = some kind.set := by
  cases kind <;> decide

theorem Subject.kinds?_names_every : ∀ name ∈ Subject.everyKind.names, kinds? name = some Kind.all := by
  decide

theorem Subject.parties?_names (party : Party) : ∀ name ∈ (Subject.party party).names,
    kinds? name = none ∧ parties? name = some party.set := by
  cases party <;> decide

namespace Restriction

/-- Nothing that parts a line or an option stands in an option, and no blank does. -/
theorem WrittenAs.plain (h : restriction.WrittenAs text) {c : Char} (hc : c ∈ text.toList) :
    c ∉ [',', '$', '#', '='] ∧ Text.isBlank c = false := by
  obtain ⟨name, hname, hlower⟩ := h
  have hmem : c.toLower ∈ Text.lower text.toList := List.mem_map_of_mem hc
  have hplain : c.toLower ∉ [',', '$', '#', '='] ∧ Text.isBlank c.toLower = false := by
    have hforeign : ∀ c ∈ [',', '$', '#', '='], (!NetworkFilter.isHostChar c && c != '~') = true :=
      List.all_eq_true.1 (by decide)
    rw [hlower, List.mem_append] at hmem
    rcases hmem with hmem | hmem
    · have htilde : c.toLower = '~' := by
        unfold tilde at hmem
        split at hmem
        · exact List.mem_singleton.1 hmem
        · cases hmem
      rw [htilde]
      decide
    · have hchar := List.all_eq_true.1 (restriction.subject.names_plain name hname).1 _ hmem
      refine ⟨fun hsign => ?_, (NetworkFilter.isHostChar_plain hchar).2.1⟩
      simpa [hchar] using hforeign _ hsign
  rw [Text.isBlank_toLower] at hplain
  refine ⟨fun hsign => hplain.1 ?_, hplain.2⟩
  simp only [List.mem_cons, List.not_mem_nil, or_false] at hsign
  rcases hsign with rfl | rfl | rfl | rfl <;> decide

/-- The kinds that an option names, with a tilde or without. -/
def kinds (restriction : Restriction) (negated : Bool) : BitSet :=
  if restriction.negated = negated then
    match restriction.subject with
    | .kind kind => kind.set
    | .everyKind => Kind.all
    | .party _ => .empty
  else .empty

def parties (restriction : Restriction) (negated : Bool) : BitSet :=
  if restriction.negated = negated then
    match restriction.subject with
    | .party party => party.set
    | _ => .empty
  else .empty

theorem isSetOf_kinds (restriction : Restriction) (negated : Bool) :
    IsSetOf Kind.index (NamesKind [restriction] negated) (restriction.kinds negated) := by
  rcases restriction with ⟨sign, subject⟩
  by_cases hsign : sign = negated
  · subst hsign
    rw [kinds, if_pos rfl]
    cases subject with
    | kind kind => exact (BitSet.isSetOf_single kind).congr fun _ => by simp [NamesKind]
    | everyKind => exact Kind.isSetOf_all.congr fun _ => by simp [NamesKind]
    | party party => exact (BitSet.isSetOf_empty Kind.index).congr fun _ => by simp [NamesKind]
  · rw [kinds, if_neg hsign]
    exact (BitSet.isSetOf_empty Kind.index).congr fun _ => by simp [NamesKind, Ne.symm hsign]

theorem isSetOf_parties (restriction : Restriction) (negated : Bool) :
    IsSetOf Party.index (NamesParty [restriction] negated) (restriction.parties negated) := by
  rcases restriction with ⟨sign, subject⟩
  by_cases hsign : sign = negated
  · subst hsign
    rw [parties, if_pos rfl]
    cases subject with
    | party party => exact (BitSet.isSetOf_single party).congr fun _ => by simp [NamesParty]
    | _ => exact (BitSet.isSetOf_empty Party.index).congr fun _ => by simp [NamesParty]
  · rw [parties, if_neg hsign]
    exact (BitSet.isSetOf_empty Party.index).congr fun _ => by simp [NamesParty, Ne.symm hsign]

end Restriction

namespace Draft

/-- What the options read so far are with one more that restricts. -/
def restrict (draft : Draft) (restriction : Restriction) : Draft where
  options := draft.options
  kindsIn := draft.kindsIn.union (restriction.kinds false)
  kindsOut := draft.kindsOut.union (restriction.kinds true)
  partiesIn := draft.partiesIn.union (restriction.parties false)
  partiesOut := draft.partiesOut.union (restriction.parties true)

theorem withMask?_tilde (draft : Draft) {name : List Char} (hname : name.head? ≠ some '~') (negated : Bool) :
    draft.withMask? (tilde negated ++ name) =
      match kinds? (String.ofList name) with
      | some kinds => some (draft.withKinds negated kinds)
      | none => (parties? (String.ofList name)).map (draft.withParties negated) := by
  cases negated with
  | true => rfl
  | false =>
    unfold withMask?
    split
    next sign rest hparts =>
    split at hparts
    · next rest heq => exact absurd (congrArg List.head? heq) hname
    · cases hparts
      rfl

theorem withMask?_names {name : String} (hname : name ∈ restriction.subject.names) (draft : Draft) :
    draft.withMask? (tilde restriction.negated ++ name.toList) = some (draft.restrict restriction) := by
  have hhead : name.toList.head? ≠ some '~' := by
    intro htilde
    have hall := (restriction.subject.names_plain name hname).1
    exact absurd (List.all_eq_true.1 hall '~' (List.mem_of_mem_head? htilde)) (by decide)
  rw [withMask?_tilde draft hhead, String.ofList_toList]
  rcases restriction with ⟨negated, kind | _ | party⟩
  · rw [Subject.kinds?_names kind name hname]
    cases negated <;> simp [restrict, withKinds, Restriction.kinds, Restriction.parties]
  · rw [Subject.kinds?_names_every name hname]
    cases negated <;> simp [restrict, withKinds, Restriction.kinds, Restriction.parties]
  · obtain ⟨hkinds, hparties⟩ := Subject.parties?_names party name hname
    rw [hkinds, hparties]
    cases negated <;> simp [restrict, withParties, Restriction.kinds, Restriction.parties]

theorem add_writtenAs (h : restriction.WrittenAs text) (draft : Draft) :
    draft.add text.toList = .ok (draft.restrict restriction) := by
  have htrim : Text.trim text.toList = text.toList := Text.trim_eq_self fun c hc => (h.plain hc).2
  have hdrop {start : String} (hstart : '=' ∈ start.toList) {s : List Char} (hs : '=' ∉ s) :
      Text.dropStart? start s = none := by
    cases hdrop : Text.dropStart? start s with
    | none => rfl
    | some rest =>
      rw [Text.eq_append_of_isPrefixOf? hdrop] at hs
      exact absurd (List.mem_append_left rest hstart) hs
  have hequals : '=' ∉ text.toList := fun hmem => (h.plain hmem).1 (by decide)
  have hlower : '=' ∉ Text.lower text.toList := by
    intro hmem
    obtain ⟨c, hc, heq⟩ := List.mem_map.1 hmem
    exact hequals ((Text.toLower_eq_iff (by decide)).1 heq ▸ hc)
  obtain ⟨name, hname, hwritten⟩ := h
  obtain ⟨-, hne, hplain⟩ := restriction.subject.names_plain name hname
  obtain ⟨hcsp, hflag⟩ := hplain restriction.negated
  have hempty : text.toList.isEmpty = false := by
    rw [List.isEmpty_eq_false_iff]
    intro hnil
    rw [hnil] at hwritten
    exact hne (List.append_eq_nil_iff.1 hwritten.symm).2
  unfold add
  dsimp only
  rw [htrim, hempty, hdrop (by decide) hequals, hdrop (by decide) hlower, hdrop (by decide) hlower,
    hdrop (by decide) hlower, hdrop (by decide) hlower, hwritten, hflag, beq_eq_false_iff_ne.2 hcsp,
    withMask?_names hname]
  rfl

/-- The options read so far say what these restrictions say, and nothing else. -/
structure Says (draft : Draft) (restrictions : List Restriction) : Prop where
  options : draft.options = {}
  kindsIn : IsSetOf Kind.index (NamesKind restrictions false) draft.kindsIn
  kindsOut : IsSetOf Kind.index (NamesKind restrictions true) draft.kindsOut
  partiesIn : IsSetOf Party.index (NamesParty restrictions false) draft.partiesIn
  partiesOut : IsSetOf Party.index (NamesParty restrictions true) draft.partiesOut

theorem says_start : Says {} [] := by
  refine ⟨rfl, ?_, ?_, ?_, ?_⟩
  · exact (BitSet.isSetOf_empty Kind.index).congr fun kind => by simp [NamesKind]
  · exact (BitSet.isSetOf_empty Kind.index).congr fun kind => by simp [NamesKind]
  · exact (BitSet.isSetOf_empty Party.index).congr fun party => by simp [NamesParty]
  · exact (BitSet.isSetOf_empty Party.index).congr fun party => by simp [NamesParty]

/-- One more option says what it names, whatever was said before. -/
theorem Says.restrict (h : draft.Says restrictions) (restriction : Restriction) :
    (draft.restrict restriction).Says (restriction :: restrictions) where
  options := h.options
  kindsIn := (h.kindsIn.union (restriction.isSetOf_kinds false)).congr fun _ => namesKind_cons.symm
  kindsOut := (h.kindsOut.union (restriction.isSetOf_kinds true)).congr fun _ => namesKind_cons.symm
  partiesIn := (h.partiesIn.union (restriction.isSetOf_parties false)).congr fun _ => namesParty_cons.symm
  partiesOut := (h.partiesOut.union (restriction.isSetOf_parties true)).congr fun _ => namesParty_cons.symm

/-- Only what the options are counts, not how often and in which order they stand. -/
theorem Says.congr {others : List Restriction} (h : draft.Says restrictions)
    (hsame : ∀ restriction, restriction ∈ restrictions ↔ restriction ∈ others) : draft.Says others where
  options := h.options
  kindsIn := h.kindsIn.congr fun _ => or_congr (hsame _) (hsame _)
  kindsOut := h.kindsOut.congr fun _ => or_congr (hsame _) (hsame _)
  partiesIn := h.partiesIn.congr fun _ => hsame _
  partiesOut := h.partiesOut.congr fun _ => hsame _

theorem Says.eq {other : Draft} (h : draft.Says restrictions) (hother : other.Says restrictions) :
    draft = other := by
  cases draft
  cases other
  simp only [mk.injEq]
  exact ⟨h.options.trans hother.options.symm, h.kindsIn.eq hother.kindsIn, h.kindsOut.eq hother.kindsOut,
    h.partiesIn.eq hother.partiesIn, h.partiesOut.eq hother.partiesOut⟩

theorem says_foldlM {before : List Restriction} {texts : List String} (h : draft.Says before)
    (hwritten : List.Forall₂ Restriction.WrittenAs restrictions texts) :
    ∃ next, (texts.map String.toList).foldlM add draft = .ok next ∧ next.Says (before ++ restrictions) := by
  induction hwritten generalizing draft before with
  | nil => exact ⟨draft, rfl, by rwa [List.append_nil]⟩
  | @cons restriction text restrictions texts hfirst _ ih =>
    obtain ⟨next, hnext, hsays⟩ := ih (h.restrict restriction)
    refine ⟨next, ?_, hsays.congr fun other => ?_⟩
    · rw [List.map_cons, List.foldlM_cons, add_writtenAs hfirst]
      exact hnext
    · simp only [List.cons_append, List.mem_cons, List.mem_append]
      tauto

end Draft

variable {texts otherTexts : List String} {others : List Restriction}

theorem ofPieces_writtenAs (hwritten : List.Forall₂ Restriction.WrittenAs restrictions texts) :
    ∃ draft : Draft, draft.Says restrictions ∧ ofPieces (texts.map String.toList) = (do
      let kinds ← mask Kind.all draft.kindsIn draft.kindsOut
      let parties ← mask Party.both draft.partiesIn draft.partiesOut
      pure { kinds, parties }) := by
  obtain ⟨draft, hdraft, hsays⟩ := Draft.says_foldlM Draft.says_start hwritten
  refine ⟨draft, hsays, ?_⟩
  rw [ofPieces, hdraft]
  obtain ⟨options, kindsIn, kindsOut, partiesIn, partiesOut⟩ := draft
  obtain rfl : options = {} := hsays.options
  rfl

/-- The options are refused when they admit no kind or no party; else they are the sets of what they admit. -/
theorem ofPieces_cases (hwritten : List.Forall₂ Restriction.WrittenAs restrictions texts) :
    (ofPieces (texts.map String.toList) = .error .emptyMask ∧
        ((∀ kind, ¬ Admits (NamesKind restrictions) kind) ∨ ∀ party, ¬ Admits (NamesParty restrictions) party)) ∨
      ∃ kinds parties, ofPieces (texts.map String.toList) = .ok { kinds, parties } ∧
        (∃ kind, Admits (NamesKind restrictions) kind) ∧ (∃ party, Admits (NamesParty restrictions) party) ∧
        (∀ kind, (kinds.isEmpty || kinds.mem kind.index) = true ↔ Admits (NamesKind restrictions) kind) ∧
        ∀ party, (parties.isEmpty || parties.mem party.index) = true ↔
          Admits (NamesParty restrictions) party := by
  obtain ⟨draft, hsays, hoptions⟩ := ofPieces_writtenAs hwritten
  rw [hoptions]
  rcases mask_cases Kind.index_injective Kind.isSetOf_all hsays.kindsIn hsays.kindsOut with
    ⟨hkinds, hnone⟩ | ⟨kinds, hkinds, hkind, hadmitted⟩
  · exact .inl ⟨by rw [hkinds]; rfl, .inl hnone⟩
  rcases mask_cases Party.index_injective Party.isSetOf_both hsays.partiesIn hsays.partiesOut with
    ⟨hparties, hnone⟩ | ⟨parties, hparties, hparty, hadmitted'⟩
  · exact .inl ⟨by rw [hkinds, hparties]; rfl, .inr hnone⟩
  · exact .inr ⟨kinds, parties, by rw [hkinds, hparties]; rfl, hkind, hparty, hadmitted, hadmitted'⟩

/-- The same options in another order, or repeated, are the same. -/
theorem ofPieces_congr (hwritten : List.Forall₂ Restriction.WrittenAs restrictions texts)
    (hother : List.Forall₂ Restriction.WrittenAs others otherTexts)
    (hsame : ∀ restriction, restriction ∈ others ↔ restriction ∈ restrictions) :
    ofPieces (otherTexts.map String.toList) = ofPieces (texts.map String.toList) := by
  obtain ⟨draft, hsays, hoptions⟩ := ofPieces_writtenAs hwritten
  obtain ⟨other, hothers, hotherOptions⟩ := ofPieces_writtenAs hother
  rw [hoptions, hotherOptions, (hothers.congr hsame).eq hsays]

theorem writtenAs_plain (hwritten : List.Forall₂ Restriction.WrittenAs restrictions texts) :
    ∀ text ∈ texts.map String.toList, ∀ c ∈ text, c ∉ [',', '$', '#', '='] ∧ Text.isBlank c = false := by
  refine List.forall_mem_map.2 fun text htext c hc => ?_
  obtain ⟨restriction, -, h⟩ := exists_mem_of_forall₂ hwritten.flip htext
  exact Restriction.WrittenAs.plain h hc

theorem ofPieces_commas (hwritten : List.Forall₂ Restriction.WrittenAs restrictions texts) :
    ofPieces (pieces (some ([','].intercalate (texts.map String.toList)))) =
      ofPieces (texts.map String.toList) := by
  have hcomma : ∀ text ∈ texts.map String.toList, ',' ∉ text := fun text htext hmem =>
    (writtenAs_plain hwritten text htext ',' hmem).1 List.mem_cons_self
  cases texts with
  | nil => rfl
  | cons text texts => exact congrArg ofPieces (pieces_join hcomma)

end FilterOptions

/-- Without a number sign and with one dollar sign a line is none of a cosmetic filter. -/
theorem Filter.typeOf_network {line : List Char} (hmark : '#' ∉ line) (hdollar : line.count '$' ≤ 1) :
    typeOf line = .network := by
  have hcontains {part : String} (h : '#' ∈ part.toList ∨ 1 < part.toList.count '$') :
      Text.contains part line = false := by
    rw [Bool.eq_false_iff, ne_eq, Text.contains_iff]
    intro hpart
    rcases h with h | h
    · exact hmark (hpart.subset h)
    · exact absurd (hpart.sublist.count_le '$') (by omega)
  simp (disch := decide) [typeOf, hcontains]

open FilterOptions (Restriction Admits NamesKind NamesParty)

theorem Domain.isWithin_of_inSubtree {domain host : List Char} (hne : domain ≠ []) (h : InSubtree domain host) :
    isWithin (Text.lower host) (Text.lower domain) = .ok true := by
  have hlower : Text.lower domain ≠ [] := by simpa [Text.lower] using hne
  rcases h with h | ⟨labels, h⟩
  · have hself := @isWithin_append (Text.lower domain) [] (Text.lower domain) hlower rfl
    rw [h]
    simpa using hself
  · have hunder := @isWithin_append (Text.lower domain) (labels ++ ['.']) (Text.lower domain) hlower rfl
    rw [h, ← List.singleton_append, ← List.append_assoc, hunder]
    simp

namespace NetworkFilter

/-- The line of a filter for a host, with these texts as its options. -/
def restrictedLine (host : String) (texts : List String) : String :=
  "||" ++ host ++ "^$" ++ ",".intercalate texts

theorem toList_restrictedLine (host : String) (texts : List String) :
    (restrictedLine host texts).toList =
      withOptions (hostLine host.toList) (some ([','].intercalate (texts.map String.toList))) := by
  simp [restrictedLine, hostLine, withOptions, String.toList_intercalate]

variable {host : String} {restrictions others : List Restriction} {texts otherTexts : List String}

/-- The text of the options has no sign that parts a line and no blanks. -/
theorem commas_plain (hwritten : List.Forall₂ Restriction.WrittenAs restrictions texts) {c : Char}
    (hc : c ∈ [','].intercalate (texts.map String.toList)) :
    c ∉ ['$', '#'] ∧ Text.isBlank c = false := by
  rcases Text.mem_intercalate hc with hcomma | ⟨text, htext, hmem⟩
  · rw [List.mem_singleton.1 hcomma]
    decide
  · obtain ⟨hsigns, hblank⟩ := FilterOptions.writtenAs_plain hwritten text htext c hmem
    refine ⟨fun hsign => hsigns ?_, hblank⟩
    simp only [List.mem_cons, List.not_mem_nil, or_false] at hsign ⊢
    tauto

section Written

variable (hhost : Domain.IsHostname host.toList)
  (hwritten : List.Forall₂ Restriction.WrittenAs restrictions texts)
include hhost hwritten

theorem restrictedLine_plain {c : Char} (hc : c ∈ (restrictedLine host texts).toList) :
    Text.isBlank c = false := by
  rw [toList_restrictedLine, withOptions] at hc
  rcases List.mem_append.1 hc with hc | hc
  · exact (hostLine_plain hhost).2 c hc
  · rcases List.mem_cons.1 hc with rfl | hc
    · decide
    · exact (commas_plain hwritten hc).2

/-- A line with restrictions is read as the filter of the host with what the options say. -/
theorem parse_restrictedLine : parse (restrictedLine host texts) = (do
    let options ← FilterOptions.ofPieces (texts.map String.toList)
    assemble (restrictedLine host texts).toList .block options (hostPattern host.toList)) := by
  have htrim : Text.trim (restrictedLine host texts).toList = (restrictedLine host texts).toList :=
    Text.trim_eq_self fun c => restrictedLine_plain hhost hwritten
  have hsplit : splitOptions (restrictedLine host texts).toList =
      (hostLine host.toList, some ([','].intercalate (texts.map String.toList))) := by
    rw [toList_restrictedLine]
    exact splitOptions_withOptions (.inl (hostLine_plain hhost).1) nofun
  have hpattern : readPattern (Text.trim (hostLine host.toList)) = .ok (hostPattern host.toList) := by
    simpa only [splitOptions_hostLine hhost] using (readsAs_hostLine hhost).pattern
  obtain ⟨rest, hbar⟩ : ∃ rest, (restrictedLine host texts).toList = '|' :: rest := by
    rw [toList_restrictedLine]
    exact ⟨_, rfl⟩
  rw [parse, hbar, parseChars_bar (hbar ▸ htrim), ← hbar, ofLine, hsplit]
  dsimp only
  rw [FilterOptions.ofPieces_commas hwritten, hpattern]
  rfl

theorem parse_restrictedLine_of_ok {kinds parties : BitSet}
    (h : FilterOptions.ofPieces (texts.map String.toList) = .ok { kinds, parties }) :
    parse (restrictedLine host texts) = .ok (ofParts (restrictedLine host texts).toList .block
      Flag.hostAnchor.set { kinds, parties } (some (String.ofList (Text.lower host.toList))) "^") := by
  rw [parse_restrictedLine hhost hwritten, h]
  exact assemble_hostAnchor rfl _ _ _

theorem filter_parse_restrictedLine : Filter.parse (restrictedLine host texts) =
    (parse (restrictedLine host texts)).map fun filter => some (.network filter) := by
  have htrim : Text.trim (restrictedLine host texts).toList = (restrictedLine host texts).toList :=
    Text.trim_eq_self fun c => restrictedLine_plain hhost hwritten
  have hmark : '#' ∉ (restrictedLine host texts).toList := by
    rw [toList_restrictedLine, withOptions, List.mem_append, List.mem_cons]
    rintro (hmem | hmem | hmem)
    · simp only [hostLine, List.mem_cons, List.mem_append, List.not_mem_nil, or_false] at hmem
      rcases hmem with hmem | hmem | hmem | hmem
      · cases hmem
      · cases hmem
      · exact hhost.not_mem (by decide) hmem
      · cases hmem
    · cases hmem
    · exact (commas_plain hwritten hmem).1 (by decide)
  have hdollar : (restrictedLine host texts).toList.count '$' = 1 := by
    have hafter : '$' ∉ [','].intercalate (texts.map String.toList) := fun hmem =>
      (commas_plain hwritten hmem).1 (by decide)
    rw [toList_restrictedLine, withOptions, List.count_append, List.count_cons_self,
      List.count_eq_zero.2 (hostLine_plain hhost).1, List.count_eq_zero.2 hafter]
  have hcomment : Filter.isComment (restrictedLine host texts).toList = false := by
    simp only [Filter.isComment, htrim]
    rw [toList_restrictedLine]
    rfl
  have htype : Filter.typeOf (restrictedLine host texts).toList = .network :=
    Filter.typeOf_network hmark hdollar.le
  rw [Filter.parse, Filter.parseChars, htrim, hcomment, htype]
  rfl

end Written

/-- A filter of a host with restrictions is tested for its kinds and parties and for its host. -/
theorem accepts_restricted {options : FilterOptions} (hdomains : options.domains = none)
    (hcsp : options.csp = none) {domain raw : List Char} (hdomain : domain ≠ []) {parts : Url.Parts}
    (hsubtree : Domain.InSubtree domain parts.host) (hport : ∀ c ∈ parts.port.getD [], c.isDigit = true)
    (suffixes : Option Domain.PublicSuffixes) (source : Option String) (kind : Kind) (regex : Option Regex) :
    (ofParts raw .block Flag.hostAnchor.set options (some (String.ofList (Text.lower domain))) "^").accepts
        (.build suffixes (String.ofList parts.text) source kind) regex =
      .ok ((options.kinds.isEmpty || options.kinds.mem kind.index) && (options.parties.isEmpty ||
        options.parties.mem (Request.build suffixes (String.ofList parts.text) source kind).party.index)) := by
  have hlocated := parts.locate?_text
  rw [← String.toList_ofList (l := parts.text)] at hlocated
  generalize hrequest : Request.build suffixes (String.ofList parts.text) source kind = request
  generalize hfilter : ofParts raw .block Flag.hostAnchor.set options
    (some (String.ofList (Text.lower domain))) "^" = filter
  have hurl : filter.acceptsUrl request regex = .ok true := by
    have hname := Request.hostname_build hlocated suffixes source kind
    rw [hrequest] at hname
    have htext : request.url.toList = parts.text := by
      rw [← hrequest]
      exact String.toList_ofList
    have hsame : filter.acceptsUrl request regex =
        Domain.isWithin request.hostname.toList (Text.lower domain) := by
      subst hfilter
      exact acceptsUrl_hostPattern rfl rfl rfl htext hport
    rw [hsame, hname, Domain.isWithin_of_inSubtree hdomain hsubtree]
  have hsource : filter.acceptsSource request = .ok true := by
    rw [acceptsSource, ← hfilter, ofParts, hdomains]
  have hkind : filter.acceptsKind request = ((options.kinds.isEmpty || options.kinds.mem kind.index) &&
      (options.parties.isEmpty || options.parties.mem request.party.index)) := by
    subst hfilter hrequest
    simp [acceptsKind, isCsp, ofParts, hcsp, Request.build]
  rw [accepts, hsource, hurl, hkind]
  split
  · next h => rw [h]; rfl
  · next h => rw [Bool.eq_false_iff.2 h]; rfl

/-- The filter without its text. -/
def untexted (filter : NetworkFilter) : NetworkFilter := { filter with raw := "" }

/-- Options for kinds and parties on a filter for a host. The line is refused when they admit no kind at all or
no party; else the filter matches the requests to the host whose kind and party they admit. Neither the order of
the options nor repeating one makes a difference. -/
theorem restrictions_admit (hhost : Domain.IsHostname host.toList)
    (hwritten : List.Forall₂ Restriction.WrittenAs restrictions texts) :
    Filter.parse (restrictedLine host texts) =
        (parse (restrictedLine host texts)).map (fun filter => some (.network filter)) ∧
      (parse (restrictedLine host texts) = .error .emptyMask ↔
        (∀ kind, ¬ Admits (NamesKind restrictions) kind) ∨ ∀ party, ¬ Admits (NamesParty restrictions) party) ∧
      (parse (restrictedLine host texts) ≠ .error .emptyMask →
        ∃ filter, parse (restrictedLine host texts) = .ok filter ∧
          ∀ parts : Url.Parts, Domain.InSubtree host.toList parts.host →
            (∀ c ∈ parts.port.getD [], c.isDigit = true) → ∀ suffixes source kind, ∃ matched,
              filter.accepts (.build suffixes (String.ofList parts.text) source kind) filter.regex?.join =
                .ok matched ∧
              (matched = true ↔ Admits (NamesKind restrictions) kind ∧ Admits (NamesParty restrictions)
                (Request.build suffixes (String.ofList parts.text) source kind).party)) ∧
      ∀ others otherTexts, (∀ restriction, restriction ∈ others ↔ restriction ∈ restrictions) →
        List.Forall₂ Restriction.WrittenAs others otherTexts →
        (parse (restrictedLine host otherTexts)).map untexted =
          (parse (restrictedLine host texts)).map untexted := by
  have hcases := FilterOptions.ofPieces_cases hwritten
  have hparse := parse_restrictedLine hhost hwritten
  refine ⟨filter_parse_restrictedLine hhost hwritten, ?_, ?_, ?_⟩
  · rcases hcases with ⟨hnone, hall⟩ | ⟨kinds, parties, hoptions, ⟨kind, hkind⟩, ⟨party, hparty⟩, -, -⟩
    · rw [hparse, hnone]
      exact iff_of_true rfl hall
    · rw [parse_restrictedLine_of_ok hhost hwritten hoptions]
      exact iff_of_false nofun fun h => h.elim (· kind hkind) (· party hparty)
  · intro hread
    rcases hcases with ⟨hnone, -⟩ | ⟨kinds, parties, hoptions, -, -, hkinds, hparties⟩
    · rw [hparse, hnone] at hread
      exact absurd rfl hread
    · refine ⟨_, parse_restrictedLine_of_ok hhost hwritten hoptions, ?_⟩
      intro parts hsubtree hport suffixes source kind
      refine ⟨_, accepts_restricted rfl rfl hhost.nonempty hsubtree hport suffixes source kind _, ?_⟩
      rw [Bool.and_eq_true, hkinds, hparties]
  · intro others otherTexts hsame hother
    rw [hparse, parse_restrictedLine hhost hother, FilterOptions.ofPieces_congr hwritten hother hsame]
    cases FilterOptions.ofPieces (texts.map String.toList) with
    | error cause => rfl
    | ok options =>
      simp only [bind, Except.bind, assemble]
      split <;> rfl

/-- Scripts and style sheets that other sites load. -/
def foreignCode : List Restriction := [⟨false, .kind .script⟩, ⟨false, .kind .stylesheet⟩, ⟨true, .party .first⟩]

theorem restrictions_admit_foreignCode :
    Domain.IsHostname "tracker.net".toList ∧
      List.Forall₂ Restriction.WrittenAs foreignCode ["Script", "css", "~1p"] ∧
      List.Forall₂ Restriction.WrittenAs foreignCode.reverse ["~1p", "css", "Script"] ∧
      ∃ filter, parse "||tracker.net^$Script,css,~1p" = .ok filter ∧
        (parse "||tracker.net^$~1p,css,Script").map untexted = .ok filter.untexted ∧
        filter.accepts (.build none "http://tracker.net/" (some "http://news.com/") .script) filter.regex?.join =
          .ok true := by
  have hhost : Domain.IsHostname "tracker.net".toList :=
    Domain.isHostname_of_isSome (by decide) (List.all_iff_forall_prop.1 (by decide)) (by decide) (by decide)
  have hwritten : List.Forall₂ Restriction.WrittenAs foreignCode ["Script", "css", "~1p"] :=
    .cons (by decide) (.cons (by decide) (.cons (by decide) .nil))
  have hreversed : List.Forall₂ Restriction.WrittenAs foreignCode.reverse ["~1p", "css", "Script"] :=
    .cons (by decide) (.cons (by decide) (.cons (by decide) .nil))
  have hline : restrictedLine "tracker.net" ["Script", "css", "~1p"] = "||tracker.net^$Script,css,~1p" := rfl
  have hother : restrictedLine "tracker.net" ["~1p", "css", "Script"] = "||tracker.net^$~1p,css,Script" := rfl
  have hkind : Admits (NamesKind foreignCode) .script := ⟨fun _ => by decide, by decide⟩
  have hparty : Admits (NamesParty foreignCode)
      (Request.build none "http://tracker.net/" (some "http://news.com/") .script).party := by
    have hthird : (Request.build none "http://tracker.net/" (some "http://news.com/") .script).party = .third := by
      decide +kernel
    rw [hthird]
    exact ⟨fun ⟨party, h⟩ => absurd h (by cases party <;> decide), by decide⟩
  have isHost : Url.IsHost "tracker.net".toList :=
    .name (by decide) (by decide) (List.all_iff_forall_prop.1 (by decide))
  obtain ⟨-, hempty, hmatches, hsame⟩ := restrictions_admit hhost hwritten
  obtain ⟨filter, hfilter, haccepts⟩ := hmatches fun hread =>
    (hempty.1 hread).elim (· .script hkind) (· _ hparty)
  obtain ⟨matched, hmatched, hiff⟩ :=
    haccepts (.ofHost isHost) (.inl rfl) nofun none (some "http://news.com/") .script
  have hreorder := hsame foreignCode.reverse _ (fun _ => List.mem_reverse) hreversed
  rw [hline] at hfilter hreorder
  rw [hother, hfilter] at hreorder
  rw [hiff.2 ⟨hkind, hparty⟩] at hmatched
  exact ⟨hhost, hwritten, hreversed, filter, hfilter, hreorder, hmatched⟩

end NetworkFilter

end ContentFilter
