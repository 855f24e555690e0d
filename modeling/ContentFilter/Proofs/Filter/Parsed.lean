import ContentFilter.Filter.Line
import ContentFilter.Proofs.Data.Traverse
import ContentFilter.Proofs.Text.Lower
import Mathlib.Logic.Basic
import Mathlib.Algebra.Group.Nat.Defs

/-! What every parsed network filter has: a host in lower case, no host beside a regular
expression, and only flags, kinds and parties that have a name. -/

namespace ContentFilter

namespace BitSet

/-- Only the first `n` flags are used. -/
def Below (n : Nat) (s : BitSet) : Prop := ∀ i, s.mem i = true → i < n

theorem below_empty (n : Nat) : Below n .empty := by
  intro i hi
  simp at hi

theorem below_single {n i : Nat} (h : i < n) : Below n (.single i) := by
  intro j hj
  simp only [mem_single, decide_eq_true_eq] at hj
  omega

theorem Below.mono {m n : Nat} {s : BitSet} (h : Below m s) (hle : m ≤ n) : Below n s :=
  fun i hi => Nat.lt_of_lt_of_le (h i hi) hle

theorem Below.union {n : Nat} {s t : BitSet} (hs : Below n s) (ht : Below n t) :
    Below n (s.union t) := by
  intro i hi
  rw [mem_union, Bool.or_eq_true] at hi
  exact hi.elim (hs i) (ht i)

theorem Below.without {n : Nat} {s : BitSet} (hs : Below n s) (t : BitSet) :
    Below n (s.without t) := by
  intro i hi
  rw [mem_without, Bool.and_eq_true] at hi
  exact hs i hi.1

theorem below_of_bits_lt {n : Nat} {s : BitSet} (h : s.bits < 2 ^ n) : Below n s := by
  intro i hi
  rcases Nat.lt_or_ge i n with hlt | hge
  · exact hlt
  · have hpow : 2 ^ n ≤ 2 ^ i := Nat.pow_le_pow_right (by decide) hge
    rw [mem, Nat.testBit_lt_two_pow (Nat.lt_of_lt_of_le h hpow)] at hi
    cases hi

theorem below_foldl_union {n : Nat} {sets : List BitSet} (h : ∀ s ∈ sets, Below n s) {start : BitSet}
    (hstart : Below n start) : Below n (sets.foldl .union start) := by
  induction sets generalizing start with
  | nil => exact hstart
  | cons s sets ih =>
    obtain ⟨hs, hsets⟩ := List.forall_mem_cons.1 h
    exact ih hsets (hstart.union hs)

theorem below_ofNat {n : Nat} : Below n ⟨2 ^ n - 1⟩ := by
  intro i hi
  simpa [mem, Nat.testBit_two_pow_sub_one] using hi

end BitSet

theorem Kind.below_set (kind : Kind) : kind.set.Below 13 :=
  BitSet.below_single (by cases kind <;> decide)

theorem Kind.below_all : Kind.all.Below 13 := by
  have h : Kind.all = ⟨2 ^ 13 - 1⟩ := by decide
  rw [h]
  exact BitSet.below_ofNat

theorem Party.below_set (party : Party) : party.set.Below 2 :=
  BitSet.below_single (by cases party <;> decide)

theorem Party.below_both : Party.both.Below 2 :=
  (Party.below_set .first).union (Party.below_set .third)

theorem Flag.below_set (flag : Flag) : flag.set.Below 10 :=
  BitSet.below_single (by cases flag <;> decide)

namespace FilterOptions

/-- The options of a filter name known flags, kinds and parties, and never a regular expression,
which only the pattern can be. -/
structure Known (options : FilterOptions) : Prop where
  flags : options.flags.Below 10
  notRegex : options.flags.mem Flag.regex.index = false
  kinds : options.kinds.Below 13
  parties : options.parties.Below 2

theorem known_default : Known {} where
  flags := BitSet.below_empty 10
  notRegex := rfl
  kinds := BitSet.below_empty 13
  parties := BitSet.below_empty 2

theorem kinds?_cases {name : String} {kinds : BitSet} (h : kinds? name = some kinds) :
    kinds = Kind.all ∨ ∃ kind : Kind, kinds = kind.set := by
  unfold kinds? at h
  iterate 13
    rcases ite_eq_iff.1 h with ⟨-, h⟩ | ⟨-, h⟩
    · exact .inr ⟨_, (Option.some.inj h).symm⟩
  rcases ite_eq_iff.1 h with ⟨-, h⟩ | ⟨-, h⟩
  · exact .inl (Option.some.inj h).symm
  · cases h

theorem below_kinds? {name : String} {kinds : BitSet} (h : kinds? name = some kinds) :
    kinds.Below 13 := by
  rcases kinds?_cases h with rfl | ⟨kind, rfl⟩
  · exact Kind.below_all
  · exact Kind.below_set kind

theorem below_parties? {name : String} {parties : BitSet} (h : parties? name = some parties) :
    parties.Below 2 := by
  unfold parties? at h
  repeat' split at h
  all_goals cases h
  all_goals exact Party.below_set _

theorem flag?_ne_regex {name : String} {flag : Flag} (h : flag? name = some flag) :
    flag ≠ .regex := by
  unfold flag? at h
  repeat' split at h
  all_goals cases h
  all_goals decide

namespace Draft

/-- What the options read so far have in common with those of a whole filter. -/
structure Known (draft : Draft) : Prop where
  flags : draft.options.flags.Below 10
  notRegex : draft.options.flags.mem Flag.regex.index = false
  kinds : draft.kindsIn.Below 13
  parties : draft.partiesIn.Below 2

theorem Known.withFlag {draft : Draft} (h : draft.Known) {flag : Flag} (hne : flag ≠ .regex) :
    (draft.withFlag flag).Known where
  flags := h.flags.union flag.below_set
  notRegex := by
    rw [Draft.withFlag, BitSet.mem_union, h.notRegex]
    cases flag <;> first | rfl | exact absurd rfl hne
  kinds := h.kinds
  parties := h.parties

theorem Known.withDomains {draft : Draft} (h : draft.Known) (domains : DomainConstraint) :
    (draft.withDomains domains).Known := ⟨h.flags, h.notRegex, h.kinds, h.parties⟩

theorem Known.withRedirect {draft : Draft} (h : draft.Known) (name : List Char) :
    (draft.withRedirect name).Known := by
  unfold Draft.withRedirect
  split
  · exact h
  · exact ⟨h.flags, h.notRegex, h.kinds, h.parties⟩

theorem Known.withMask? {draft next : Draft} (h : draft.Known) {option : List Char}
    (hnext : draft.withMask? option = some next) : next.Known := by
  unfold Draft.withMask? at hnext
  split at hnext
  split at hnext
  · next kinds hkinds =>
    cases hnext
    unfold withKinds
    split
    · exact ⟨h.flags, h.notRegex, h.kinds, h.parties⟩
    · exact ⟨h.flags, h.notRegex, h.kinds.union (below_kinds? hkinds), h.parties⟩
  · obtain ⟨parties, hparties, rfl⟩ := Option.map_eq_some_iff.1 hnext
    unfold withParties
    split
    · exact ⟨h.flags, h.notRegex, h.kinds, h.parties⟩
    · exact ⟨h.flags, h.notRegex, h.kinds, h.parties.union (below_parties? hparties)⟩

theorem Known.add {draft next : Draft} (h : draft.Known) {option : List Char}
    (hnext : draft.add option = .ok next) : next.Known := by
  unfold Draft.add at hnext
  extract_lets trimmed name at hnext
  split at hnext
  · cases hnext
    exact h
  split at hnext
  · cases hnext
    exact ⟨h.flags, h.notRegex, h.kinds, h.parties⟩
  split at hnext
  · next flag hflag =>
    cases hnext
    exact h.withFlag (flag?_ne_regex hflag)
  split at hnext
  · cases hnext
    exact ⟨h.flags, h.notRegex, h.kinds, h.parties⟩
  split at hnext
  · obtain ⟨domains, -, rfl⟩ := ok_of_map hnext
    exact h.withDomains domains
  split at hnext
  · cases hnext
    exact h.withRedirect _
  split at hnext
  · split at hnext
    · cases hnext
      exact h
    · cases hnext
      exact (h.withRedirect _).withFlag (by decide)
  split at hnext
  · next hmask =>
    cases hnext
    exact h.withMask? hmask
  · cases hnext

end Draft

theorem below_mask {n : Nat} {all named excluded result : BitSet} (hall : all.Below n)
    (hnamed : named.Below n) (h : mask all named excluded = .ok result) : result.Below n := by
  unfold mask at h
  extract_lets base rest at h
  have hbase : base.Below n := by
    simp only [base]
    split
    · exact hall
    · exact hnamed
  split at h
  · cases h
  · cases h
    split
    · exact BitSet.below_empty n
    · exact hbase.without excluded

theorem known_of_parse {text : List Char} {options : FilterOptions}
    (h : FilterOptions.parse text = .ok options) : options.Known := by
  obtain ⟨draft, hdraft, h⟩ := ok_of_bind h
  obtain ⟨kinds, hkinds, h⟩ := ok_of_bind h
  obtain ⟨parties, hparties, h⟩ := ok_of_bind h
  have hstart : Draft.Known {} :=
    ⟨BitSet.below_empty 10, rfl, BitSet.below_empty 13, BitSet.below_empty 2⟩
  have hknown : draft.Known :=
    foldlM_keeps (fun b a c hb hc => hb.add hc) hstart hdraft
  cases h
  exact ⟨hknown.flags, hknown.notRegex, below_mask Kind.below_all hknown.kinds hkinds,
    below_mask Party.below_both hknown.parties hparties⟩

end FilterOptions

theorem Domain.lower_of_normalize? {host name : List Char} (h : Domain.normalize? host = some name) :
    Text.lower name = name := by
  unfold Domain.normalize? at h
  extract_lets trimmed at h
  split at h
  · cases h
    exact Text.lower_lower trimmed
  · cases h

namespace NetworkFilter

/-- What the reader of a line guarantees of its filter. -/
structure WellFormed (filter : NetworkFilter) : Prop where
  lower : ∀ host, filter.hostname = some host → Text.lower host.toList = host.toList
  noHost : filter.isRegex = true → filter.hostname = none
  flags : filter.flags.Below 10
  kinds : filter.kinds.Below 13
  parties : filter.parties.Below 2

theorem lower_of_hostsLine? {line : List Char} {host : String} (h : hostsLine? line = some host) :
    Text.lower host.toList = host.toList := by
  unfold hostsLine? at h
  split at h
  · split at h
    · obtain ⟨name, hname, rfl⟩ := Option.map_eq_some_iff.1 h
      rw [String.toList_ofList]
      exact Domain.lower_of_normalize? hname
    · cases h
  · cases h

theorem normalize?_of_splitHost? {text rest : List Char} {host : String}
    (h : splitHost? text = some (host, rest)) : ∃ name, Domain.normalize? name = some host.toList := by
  unfold splitHost? at h
  extract_lets name start after endsHost at h
  clear_value endsHost after
  split at h
  · obtain ⟨found, hfound, heq⟩ := Option.map_eq_some_iff.1 h
    cases heq
    rw [String.toList_ofList]
    exact ⟨start, hfound⟩
  · cases h

/-- A pattern has a host only when it is no regular expression. -/
structure Pattern.WellFormed (pattern : Pattern) : Prop where
  lower : ∀ host, pattern.hostname = some host → Text.lower host.toList = host.toList
  noHost : pattern.flags.mem Flag.regex.index = true → pattern.hostname = none
  flags : pattern.flags.Below 10

/-- A pattern is a regular expression between slashes, or it has flags for its anchors only and a host
that is accepted as one. -/
theorem parsePattern_cases {line : List Char} {pattern : Pattern}
    (h : parsePattern line = .ok pattern) :
    (2 < line.length ∧ line.head? = some '/' ∧ line.getLast? = some '/' ∧
      pattern = ⟨Flag.regex.set, none, String.ofList line.tail.dropLast⟩) ∨
    (pattern.flags.Below 6 ∧ pattern.flags.mem Flag.regex.index = false ∧
      ∀ host, pattern.hostname = some host → ∃ name, Domain.normalize? name = some host.toList) := by
  unfold parsePattern at h
  split at h
  · next hslashed =>
    extract_lets source at h
    split at h
    · cases h
      simp only [Bool.and_eq_true, decide_eq_true_eq, beq_iff_eq] at hslashed
      exact .inl ⟨hslashed.1.1, hslashed.1.2, hslashed.2, rfl⟩
    · cases h
  right
  split at h
  next start rest hstart =>
  have hanchors : start.Below 6 ∧ start.mem Flag.regex.index = false := by
    split at hstart <;> obtain ⟨rfl, -⟩ := Prod.mk.inj hstart
    · exact ⟨BitSet.below_single (by decide), by decide⟩
    · exact ⟨BitSet.below_single (by decide), by decide⟩
    · exact ⟨BitSet.below_empty 6, by decide⟩
  split at h
  next flags rest' hflags =>
  have hflags : flags.Below 6 ∧ flags.mem Flag.regex.index = false := by
    split at hflags <;> obtain ⟨rfl, -⟩ := Prod.mk.inj hflags
    · refine ⟨hanchors.1.union (BitSet.below_single (by decide)), ?_⟩
      rw [BitSet.mem_union, hanchors.2]
      decide
    · exact hanchors
  dsimp only at h
  split at h
  · next name text hhost =>
    cases h
    refine ⟨hflags.1, hflags.2, fun name' hname => ?_⟩
    cases hname
    split at hhost
    · exact normalize?_of_splitHost? hhost
    · cases hhost
  · cases h
    refine ⟨hflags.1, hflags.2, fun name hname => ?_⟩
    cases hname

theorem wellFormed_of_parsePattern {line : List Char} {pattern : Pattern}
    (h : parsePattern line = .ok pattern) : pattern.WellFormed := by
  rcases parsePattern_cases h with ⟨-, -, -, rfl⟩ | ⟨hflags, hregex, hhost⟩
  · exact ⟨nofun, fun _ => rfl, Flag.below_set .regex⟩
  · refine ⟨fun host hname => ?_, fun hmem => ?_, hflags.mono (by decide)⟩
    · obtain ⟨name, hname⟩ := hhost host hname
      exact Domain.lower_of_normalize? hname
    · rw [hregex] at hmem
      cases hmem

theorem wellFormed_of_parseChars {line : List Char} {filter : NetworkFilter}
    (h : parseChars line = .ok filter) : filter.WellFormed := by
  unfold parseChars at h
  extract_lets raw rest at h
  split at h
  · cases h
  simp -zeta only [rest] at h
  extract_lets part finish at h
  -- what comes after the options depends on them only through their flags, kinds and parties
  have hfinish : ∀ options : FilterOptions, options.Known → finish options = .ok filter →
      filter.WellFormed := by
    intro options hoptions hok
    have hflags : ∀ redirects : Bool,
        (if redirects = true then options.flags.union Flag.redirectRule.set
          else options.flags).Below 10 ∧
        (if redirects = true then options.flags.union Flag.redirectRule.set
          else options.flags).mem Flag.regex.index = false := by
      intro redirects
      split
      · refine ⟨hoptions.flags.union (Flag.below_set .redirectRule), ?_⟩
        rw [BitSet.mem_union, hoptions.notRegex]
        decide
      · exact ⟨hoptions.flags, hoptions.notRegex⟩
    dsimp only [finish] at hok
    split at hok
    · split at hok
      · next host hhost =>
        cases hok
        refine ⟨fun name hname => ?_, fun hregex => ?_, ?_, hoptions.kinds, hoptions.parties⟩
        · cases hname
          exact lower_of_hostsLine? hhost
        · simp only [isRegex, has, ofParts, BitSet.mem_union, (hflags _).2] at hregex
          exact absurd hregex (by decide)
        · exact (hflags _).1.union (Flag.below_set .hostAnchor)
      · cases hok
    · obtain ⟨pattern, hpattern, hok⟩ := ok_of_bind hok
      have hwell := wellFormed_of_parsePattern hpattern
      obtain ⟨-, hok⟩ | ⟨-, hok⟩ := ite_eq_iff.1 hok
      · cases hok
      · cases hok
        refine ⟨hwell.lower, fun hregex => hwell.noHost ?_, (hflags _).1.union hwell.flags,
          hoptions.kinds, hoptions.parties⟩
        simpa only [isRegex, has, ofParts, BitSet.mem_union, (hflags _).2, Bool.false_or]
          using hregex
  clear_value finish
  split at h
  · obtain ⟨options, hoptions, h⟩ := ok_of_bind h
    exact hfinish options (FilterOptions.known_of_parse hoptions) h
  · exact hfinish {} FilterOptions.known_default h

end NetworkFilter

theorem Filter.wellFormed_of_parseChars {line : List Char} {filter : NetworkFilter}
    (h : Filter.parseChars line = .ok (some (.network filter))) : filter.WellFormed := by
  unfold Filter.parseChars at h
  extract_lets trimmed at h
  split at h
  · cases h
  split at h
  · obtain ⟨found, hfound, heq⟩ := ok_of_map h
    cases heq
    exact NetworkFilter.wellFormed_of_parseChars hfound
  · obtain ⟨found, -, heq⟩ := ok_of_map h
    cases heq
  · cases h

namespace ParsedList

theorem wellFormed_add {parsed : ParsedList} {number : Nat} {line : List Char}
    (h : ∀ filter ∈ parsed.network, filter.WellFormed) :
    ∀ filter ∈ (parsed.add number line).network, filter.WellFormed := by
  unfold ParsedList.add
  split
  · next filter hfilter =>
    intro other hother
    rcases List.mem_cons.1 hother with rfl | hother
    · exact Filter.wellFormed_of_parseChars hfilter
    · exact h other hother
  · exact h
  · exact h
  · exact h

theorem wellFormed_ofLines (number : Nat) (lines : List (List Char)) :
    ∀ filter ∈ (ofLines number lines).network, filter.WellFormed := by
  induction lines generalizing number with
  | nil => simp [ofLines]
  | cons line lines ih => exact wellFormed_add (ih (number + 1))

end ParsedList

end ContentFilter
