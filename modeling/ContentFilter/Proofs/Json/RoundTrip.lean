import ContentFilter.Json.Parser
import ContentFilter.Proofs.Json.Scanner

/-! A written value reads back as itself, and no part of a written object at its start reads as
anything. -/

namespace ContentFilter.Json

namespace Reading

/-- Where a value may stand: right after a bracket it may also be the first item. -/
theorem read_firstItem (outer : List Frame) (json : Json) :
    (tokens json).foldlM step (.firstItem outer) =
      (tokens json).foldlM step (.value (.array [] :: outer)) := by
  have hfirst : ∀ token rest, open? (.array [] :: outer) token ≠ none →
      (token :: rest).foldlM step (.firstItem outer) =
        (token :: rest).foldlM step (.value (.array [] :: outer)) := by
    intro token rest hopen
    rw [List.foldlM_cons, List.foldlM_cons]
    cases token <;> first | rfl | exact absurd rfl hopen
  match json with
  | .null | .bool _ | .integer _ | .decimal _ | .string _ | .unpaired => exact hfirst _ _ nofun
  | .array [] | .array (_ :: _) | .object [] | .object (_ :: _) => exact hfirst _ _ nofun

mutual

theorem read_tokens (json : Json) (h : isPlain json = true) (outer : List Frame) :
    (tokens json).foldlM step (.value outer) = some (complete json outer) := by
  match json with
  | .null => rfl
  | .bool _ => rfl
  | .integer _ => rfl
  | .string _ => rfl
  | .array [] => rfl
  | .array (item :: items) =>
    rw [isPlain, arePlain, Bool.and_eq_true] at h
    have hopen : step (.value outer) .openArray = some (.firstItem outer) := rfl
    rw [tokens, List.foldlM_cons, hopen, Option.bind_eq_bind, Option.bind_some,
      List.foldlM_append, read_firstItem, read_tokens item h.1]
    exact read_items items h.2 [item] outer
  | .object [] => rfl
  | .object ((name, inner) :: fields) =>
    rw [isPlain, arePlainFields, Bool.and_eq_true] at h
    have hinner := read_tokens inner h.1 (.member [] true name :: outer)
    have hfields := read_fields fields h.2 [(name, inner)] outer
    simp only [tokens, List.foldlM_cons, step, open?, Option.bind_eq_bind, Option.bind_some,
      List.foldlM_append, hinner]
    exact hfields

theorem read_items (items : List Json) (h : arePlain items = true) (done : List Json)
    (outer : List Frame) :
    (itemTokens items).foldlM step (.separator (.array done) outer) =
      some (complete (.array (done.reverse ++ items)) outer) := by
  match items with
  | [] =>
    rw [List.append_nil]
    rfl
  | item :: items =>
    rw [arePlain, Bool.and_eq_true] at h
    have hcomma : step (.separator (.array done) outer) .comma =
        some (.value (.array done :: outer)) := rfl
    have hitems := read_items items h.2 (item :: done) outer
    rw [List.reverse_cons, List.append_assoc, List.singleton_append] at hitems
    rw [itemTokens, List.foldlM_cons, hcomma, Option.bind_eq_bind, Option.bind_some,
      List.foldlM_append, read_tokens item h.1]
    exact hitems

theorem read_fields (fields : List (String × Json)) (h : arePlainFields fields = true)
    (done : List (String × Json)) (outer : List Frame) :
    (fieldTokens fields).foldlM step (.separator (.object done true) outer) =
      some (complete (.object (done.reverse ++ fields)) outer) := by
  match fields with
  | [] =>
    rw [List.append_nil]
    rfl
  | (name, inner) :: fields =>
    rw [arePlainFields, Bool.and_eq_true] at h
    have hinner := read_tokens inner h.1 (.member done true name :: outer)
    have hfields := read_fields fields h.2 ((name, inner) :: done) outer
    rw [List.reverse_cons, List.append_assoc, List.singleton_append] at hfields
    simp only [fieldTokens, List.foldlM_cons, step, open?, Option.bind_eq_bind, Option.bind_some,
      List.foldlM_append, hinner]
    exact hfields

end

end Reading

/-- A written value reads back as itself. -/
theorem parseChars_chars {json : Json} (h : isPlain json = true) :
    parseChars (chars json) = some json := by
  have hread := Reading.read_tokens json h []
  rw [parseChars, Token.scan_chars h]
  simp only [Option.bind_eq_bind, Option.bind_some, hread]
  rfl

namespace Token

theorem run_of_scan {s : List Char} {tokens : List Token} (h : scan s = some tokens) :
    ∃ given last owed, run .between s = some (given, last) ∧ finish last = some owed ∧
      tokens = given ++ owed := by
  rw [scan, scanFrom_eq_run] at h
  obtain ⟨⟨given, last⟩, hrun, h⟩ := Option.bind_eq_some_iff.1 h
  obtain ⟨owed, howed, rfl⟩ := Option.map_eq_some_iff.1 h
  exact ⟨given, last, owed, hrun, howed, rfl⟩

theorem run_append_inv {scan last : Scan} {s t : List Char} {tokens : List Token}
    (h : run scan (s ++ t) = some (tokens, last)) :
    ∃ given next rest, run scan s = some (given, next) ∧ run next t = some (rest, last) ∧
      tokens = given ++ rest := by
  induction s generalizing scan tokens with
  | nil => exact ⟨[], scan, tokens, rfl, h, rfl⟩
  | cons c s ih =>
    obtain ⟨⟨first, middle⟩, hc, h⟩ := Option.bind_eq_some_iff.1 h
    obtain ⟨⟨more, end'⟩, hs, h⟩ := Option.bind_eq_some_iff.1 h
    cases h
    obtain ⟨given, next, rest, hgiven, hrest, rfl⟩ := ih hs
    exact ⟨first ++ given, next, rest, run_cons hc hgiven, hrest, (List.append_assoc ..).symm⟩

/-- A closing brace is a token unless it stands inside a string, which it does not end. -/
theorem finish_step_brace {scan next : Scan} (h : step scan '\x7d' = some ([], next)) :
    finish next = none := by
  cases scan with
  | between => cases h
  | word read =>
    rw [step_word, show ('\x7d').isLower = false from rfl] at h
    cases hword : scalars (word? read.reverse) with
    | none => rw [hword] at h; cases h
    | some done => rw [hword, endOr_false] at h; simp [stepBetween] at h
  | number read =>
    rw [step_number, show isNumberChar '\x7d' = false from rfl] at h
    cases hnumber : scalars (number? read.reverse) with
    | none => rw [hnumber] at h; cases h
    | some done => rw [hnumber, endOr_false] at h; simp [stepBetween] at h
  | text read paired => cases h; rfl
  | escape read paired => cases h
  | unicode read paired high due value => cases h
  | surrogate read paired high => cases h; rfl
  | surrogateEscape read paired high => cases h

theorem finish_cases {scan : Scan} {owed : List Token} (h : finish scan = some owed) :
    scan = .between ∧ owed = [] ∨ scan ≠ .between ∧ ∃ value, owed = [.scalar value] := by
  cases scan with
  | between => cases h; exact .inl ⟨rfl, rfl⟩
  | word read =>
    obtain ⟨value, -, rfl⟩ := Option.map_eq_some_iff.1 h
    exact .inr ⟨nofun, value, rfl⟩
  | number read =>
    obtain ⟨value, -, rfl⟩ := Option.map_eq_some_iff.1 h
    exact .inr ⟨nofun, value, rfl⟩
  | text | escape | unicode | surrogate | surrogateEscape => cases h

end Token

namespace Reading

theorem complete_ne_value (json : Json) (outer : List Frame) : complete json outer ≠ .value [] := by
  cases outer with
  | nil => nofun
  | cons frame outer => cases frame <;> nofun

theorem complete_eq_done {json done : Json} {outer : List Frame}
    (h : complete json outer = .done done) : outer = [] := by
  cases outer with
  | nil => rfl
  | cons frame outer => cases frame <;> cases h

/-- The start of a text is never come back to. -/
theorem step_ne_value (reading : Reading) (token : Token) : step reading token ≠ some (.value []) := by
  intro h
  have hopen : ∀ outer, open? outer token ≠ some (.value []) := by
    intro outer
    cases token <;> simp [open?, complete_ne_value]
  unfold step at h
  split at h
  all_goals first
    | exact hopen _ h
    | exact complete_ne_value _ _ (Option.some.inj h)
    | cases h

theorem foldlM_eq_value {tokens : List Token} {reading : Reading}
    (h : tokens.foldlM step reading = some (.value [])) : tokens = [] := by
  rcases List.eq_nil_or_concat tokens with rfl | ⟨front, token, rfl⟩
  · rfl
  · rw [List.concat_eq_append, List.foldlM_append] at h
    obtain ⟨last, -, h⟩ := Option.bind_eq_some_iff.1 h
    rw [List.foldlM_cons] at h
    obtain ⟨found, hstep, hfound⟩ := Option.bind_eq_some_iff.1 h
    cases hfound
    exact absurd hstep (step_ne_value last token)

/-- A scalar ends the text only when it is all of it. -/
theorem eq_value_of_step_scalar {reading : Reading} {value json : Json}
    (h : step reading (.scalar value) = some (.done json)) : reading = .value [] := by
  cases reading with
  | value outer =>
    obtain rfl := complete_eq_done (Option.some.inj h)
    rfl
  | firstItem outer => exact nomatch complete_eq_done (Option.some.inj h)
  | firstName outer | nextName fields paired outer => cases value <;> cases h
  | colon fields paired key outer => cases h
  | separator inner outer => cases inner <;> cases h
  | done json => cases h

theorem foldlM_done {tokens : List Token} {json : Json} {reading : Reading}
    (h : tokens.foldlM step (.done json) = some reading) : tokens = [] := by
  cases tokens with
  | nil => rfl
  | cons token tokens =>
    rw [List.foldlM_cons] at h
    cases h

end Reading

theorem fieldChars_eq_concat (fields : List (String × Json)) :
    ∃ s, fieldChars fields = s ++ ['\x7d'] := by
  induction fields with
  | nil => exact ⟨[], rfl⟩
  | cons field fields ih =>
    obtain ⟨s, hs⟩ := ih
    refine ⟨',' :: (quoted field.1 ++ ':' :: (chars field.2 ++ s)), ?_⟩
    rw [fieldChars, hs]
    simp

/-- A written object begins with an opening brace and ends with a closing one. -/
theorem chars_object_eq (fields : List (String × Json)) :
    (∃ s, chars (.object fields) = '\x7b' :: s) ∧ ∃ s, chars (.object fields) = s ++ ['\x7d'] := by
  match fields with
  | [] => exact ⟨⟨['\x7d'], rfl⟩, ['\x7b'], rfl⟩
  | (name, inner) :: fields =>
    obtain ⟨s, hs⟩ := fieldChars_eq_concat fields
    refine ⟨⟨_, rfl⟩, '\x7b' :: (quoted name ++ ':' :: (chars inner ++ s)), ?_⟩
    rw [chars, hs]
    simp

/-- The closing brace is a token that no part of a written object before it has handed out. -/
theorem Token.tokens_of_prefix {fields : List (String × Json)} (h : isPlain (.object fields) = true)
    {s : List Char} (hs : s <+: chars (.object fields)) (hne : s ≠ chars (.object fields))
    {given : List Token} {last : Scan} (hrun : run .between s = some (given, last)) :
    ∃ rest ≠ [], tokens (.object fields) = given ++ rest := by
  obtain ⟨t, ht⟩ := hs
  obtain ⟨front, hfront⟩ := (chars_object_eq fields).2
  rcases List.eq_nil_or_concat t with rfl | ⟨middle, c, rfl⟩
  · rw [List.append_nil] at ht
    exact absurd ht hne
  rw [List.concat_eq_append, ← List.append_assoc] at ht
  obtain ⟨-, hc⟩ := List.append_inj' (ht.trans hfront) rfl
  cases hc
  obtain ⟨all, final, owed, hall, howed, htokens⟩ := run_of_scan (scan_chars h)
  rw [← ht, List.append_assoc] at hall
  obtain ⟨first, next, rest, hfirst, hrest, rfl⟩ := run_append_inv hall
  rw [hrun] at hfirst
  cases hfirst
  refine ⟨rest ++ owed, fun hnil => ?_, by rw [htokens, List.append_assoc]⟩
  obtain ⟨hrestNil, howedNil⟩ := List.append_eq_nil_iff.1 hnil
  subst hrestNil
  obtain ⟨more, inside, brace, -, hbrace, hmore⟩ := run_append_inv hrest
  obtain ⟨-, rfl⟩ := List.append_eq_nil_iff.1 hmore.symm
  obtain ⟨⟨tokens, after⟩, hstep, hafter⟩ := Option.bind_eq_some_iff.1 hbrace
  simp only [run, Option.bind_eq_bind, Option.bind_some, Option.pure_def, List.append_nil,
    Option.some.injEq, Prod.mk.injEq] at hafter
  obtain ⟨rfl, rfl⟩ := hafter
  rw [finish_step_brace hstep] at howed
  cases howed

/-- What a written object begins with is no value, unless it is the whole object. -/
theorem parseChars_prefix {fields : List (String × Json)} (h : isPlain (.object fields) = true)
    {s : List Char} (hs : s <+: chars (.object fields)) (hne : s ≠ chars (.object fields)) :
    parseChars s = none := by
  rw [Option.eq_none_iff_forall_ne_some]
  intro json hparse
  obtain ⟨found, hscan, hparse⟩ := Option.bind_eq_some_iff.1 hparse
  obtain ⟨reading, hread, hfinish⟩ := Option.bind_eq_some_iff.1 hparse
  obtain rfl : reading = .done json := by
    cases reading <;> cases hfinish
    rfl
  obtain ⟨given, last, owed, hrun, howed, rfl⟩ := Token.run_of_scan hscan
  rcases Token.finish_cases howed with ⟨-, rfl⟩ | ⟨hopen, value, rfl⟩
  · -- the value is complete, but a token of the object is still to come
    obtain ⟨rest, hrest, htokens⟩ := Token.tokens_of_prefix h hs hne hrun
    rw [List.append_nil] at hread
    have hdone := Reading.read_tokens _ h []
    rw [htokens, List.foldlM_append, hread] at hdone
    exact hrest (Reading.foldlM_done hdone)
  · -- a word or a number is all of the text, but the text begins with a brace
    rw [List.foldlM_append] at hread
    obtain ⟨reading, hgiven, hlast⟩ := Option.bind_eq_some_iff.1 hread
    rw [List.foldlM_cons] at hlast
    obtain ⟨after, hstep, hafter⟩ := Option.bind_eq_some_iff.1 hlast
    cases hafter
    obtain rfl := Reading.eq_value_of_step_scalar hstep
    obtain rfl := Reading.foldlM_eq_value hgiven
    cases s with
    | nil =>
      cases hrun
      exact hopen rfl
    | cons c s =>
      obtain ⟨front, hfront⟩ := (chars_object_eq fields).1
      rw [hfront] at hs
      obtain ⟨rfl, -⟩ := List.cons_prefix_cons.1 hs
      have hbrace : Token.step .between '\x7b' = some ([.openObject], .between) := rfl
      simp only [Token.run, hbrace, Option.bind_eq_bind, Option.bind_some] at hrun
      obtain ⟨⟨rest, next⟩, -, hrest⟩ := Option.bind_eq_some_iff.1 hrun
      cases hrest

end ContentFilter.Json
