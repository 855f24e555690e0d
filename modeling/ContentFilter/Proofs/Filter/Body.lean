import ContentFilter.Proofs.Domain.Hostname
import ContentFilter.Proofs.Filter.Cosmetic
import ContentFilter.Proofs.Text.Basic

/-! What the parts of a cosmetic filter's line are read as: its body, a constructor for each branch of the
reader, and the whole line. -/

namespace ContentFilter.CosmeticFilter

variable {filter : CosmeticFilter} {line : List Char}

theorem parseSelector_eq_ok {s : List Char} {selector : String} : parseSelector s = .ok selector ↔
    selector = String.ofList (Text.trim s) ∧ Text.trim s ≠ [] ∧ hasBrace (Text.trim s) = false := by
  unfold parseSelector
  extract_lets trimmed
  by_cases h : (trimmed.isEmpty || hasBrace trimmed) = true
  · rw [if_pos h]
    simp only [Bool.or_eq_true, List.isEmpty_iff] at h
    refine iff_of_false nofun fun ⟨_, hne, hbrace⟩ => ?_
    simp [trimmed, hne, hbrace] at h
  · rw [if_neg h]
    simp only [Bool.or_eq_true, List.isEmpty_iff, not_or, Bool.not_eq_true] at h
    exact ⟨fun heq => ⟨(Except.ok.inj heq).symm, h⟩, fun heq => congrArg _ heq.1.symm⟩

/-- A body with a mark at its start does something else than to hide elements. -/
def isMarked (body : List Char) : Bool := Text.startsWith "+js(" body || body.head? == some '^'

/-- The kind and the selector of a body. In the order of the reader it is a call, a selector on the body of
the response, a selector with declarations, a procedural selector or a plain one. -/
inductive IsBody (unhide : Bool) (body : List Char) : CosmeticKind → String → Prop
  | call {args : List Char} (hbody : body = "+js(".toList ++ args ++ [')'])
      (hnamed : unhide = false → (parseCall args).name ≠ "") :
      IsBody unhide body (.scriptlet (parseCall args)) ""
  | html {text : List Char} {selector : String} (hbody : body = '^' :: text)
      (hselector : parseSelector text = .ok selector) : IsBody unhide body .html selector
  | style {text css : List Char} {selector : String} (hmark : isMarked body = false)
      (hbody : body = text ++ ":style(".toList ++ css ++ [')'])
      (hselector : parseSelector text = .ok selector) (hbrace : hasBrace css = false)
      (hcss : Text.trim css ≠ []) :
      IsBody unhide body (.style (String.ofList (Text.trim css))) selector
  | extended {selector : String} (hmark : isMarked body = false)
      (hselector : parseSelector body = .ok selector) : IsBody unhide body .extended selector
  | hide {selector : String} (hmark : isMarked body = false)
      (hselector : parseSelector body = .ok selector) : IsBody unhide body .hide selector

theorem splitStyle?_eq_some {body text css : List Char} (h : splitStyle? body = some (text, css)) :
    body = text ++ ":style(".toList ++ css ++ [')'] := by
  unfold splitStyle? at h
  split at h
  · next start rest hcut =>
    obtain ⟨found, hfound, heq⟩ := Option.map_eq_some_iff.1 h
    cases heq
    rw [Text.eq_append_of_cutLast? hcut, Text.dropEnd?_eq_some.1 hfound]
    simp
  · cases h

theorem isBody_of_parseBody {unhide extended : Bool} {body : List Char} {kind : CosmeticKind}
    {selector : String} (h : parseBody unhide extended body = .ok (kind, selector)) :
    IsBody unhide body kind selector := by
  have hstart : Text.startsWith "+js(" body = (Text.dropStart? "+js(" body).isSome :=
    (List.isSome_isPrefixOf?_eq_isPrefixOf _ _).symm
  unfold parseBody at h
  extract_lets invalid at h
  split at h
  · cases h
  split at h
  · next args hargs =>
    split at h
    · cases h
    · next args' hargs' =>
      extract_lets call at h
      split at h
      · cases h
      · next hnamed =>
        cases h
        refine .call ?_ fun hunhide hname => hnamed ?_
        · rw [Text.eq_append_of_isPrefixOf? hargs, Text.dropEnd?_eq_some.1 hargs']
          simp
        · simp [call, hunhide, hname]
  · next hargs =>
    split at h
    · obtain ⟨found, hfound, heq⟩ := ok_of_map h
      cases heq
      exact .html rfl hfound
    · next hhead =>
      have hmark : isMarked body = false := by
        rw [isMarked, hstart, hargs, Bool.or_eq_false_iff, beq_eq_false_iff_ne]
        refine ⟨rfl, fun hcaret => ?_⟩
        obtain ⟨rest, hrest⟩ := List.head?_eq_some_iff.1 hcaret
        exact hhead rest hrest
      split at h
      · next text css hstyle =>
        split at h
        · cases h
        · next hcss =>
          obtain ⟨found, hfound, heq⟩ := ok_of_map h
          cases heq
          simp only [Bool.or_eq_true, List.isEmpty_iff, not_or, Bool.not_eq_true] at hcss
          exact .style hmark (splitStyle?_eq_some hstyle) hfound hcss.1 hcss.2
      split at h
      · obtain ⟨found, hfound, heq⟩ := ok_of_map h
        cases heq
        exact .extended hmark hfound
      · obtain ⟨found, hfound, heq⟩ := ok_of_map h
        cases heq
        exact .hide hmark hfound

theorem separatorAt?_of_ne {c : Char} (h : c ≠ '#') (s : List Char) : separatorAt? (c :: s) = none := by
  simp [separatorAt?, separators, Text.dropStart?, Text.isPrefixOf?_cons, h.symm]

/-- No separator is the start of another one. -/
theorem separatorAt?_append {sep : Separator} (h : sep ∈ separators) (rest : List Char) :
    separatorAt? (sep.text.toList ++ rest) = some (sep, rest) := by
  simp only [separators, List.mem_cons, List.not_mem_nil, or_false] at h
  rcases h with rfl | rfl | rfl | rfl <;> rfl

/-- Hosts without a number sign come before the first separator. -/
theorem cutSeparator?_append {hosts : List Char} (h : '#' ∉ hosts) {sep : Separator}
    (hsep : sep ∈ separators) (body : List Char) :
    cutSeparator? (hosts ++ (sep.text.toList ++ body)) = some (hosts, sep, body) := by
  induction hosts with
  | nil =>
    have hat := separatorAt?_append hsep body
    obtain ⟨c, rest, hrest⟩ : ∃ c rest, sep.text.toList ++ body = c :: rest := by
      refine List.exists_cons_of_ne_nil fun hnil => ?_
      rw [hnil] at hat
      cases hat
    rw [hrest] at hat
    rw [List.nil_append, hrest, cutSeparator?, hat]
  | cons c hosts ih =>
    rw [List.mem_cons, not_or] at h
    rw [List.cons_append, cutSeparator?, separatorAt?_of_ne (Ne.symm h.1), ih h.2]
    rfl

theorem eq_append_of_cutSeparator? {s hosts body : List Char} {sep : Separator}
    (h : cutSeparator? s = some (hosts, sep, body)) :
    s = hosts ++ (sep.text.toList ++ body) ∧ sep ∈ separators := by
  induction s generalizing hosts with
  | nil => cases h
  | cons c s ih =>
    rw [cutSeparator?] at h
    split at h
    · next found rest hfound =>
      cases h
      obtain ⟨mark, hmem, hmark⟩ := List.exists_of_findSome?_eq_some hfound
      obtain ⟨rest, hrest, heq⟩ := Option.map_eq_some_iff.1 hmark
      cases heq
      have happend : c :: s = sep.text.toList ++ body := Text.eq_append_of_isPrefixOf? hrest
      exact ⟨happend, hmem⟩
    · obtain ⟨⟨before, found⟩, hfound, heq⟩ := Option.map_eq_some_iff.1 h
      cases heq
      obtain ⟨happend, hmem⟩ := ih hfound
      exact ⟨congrArg (c :: ·) happend, hmem⟩

/-- No number sign stands in hosts that are read. -/
theorem not_mem_of_parseHostnames {text : List Char} {names : List (Bool × String)}
    (h : parseHostnames text = .ok names) : '#' ∉ text := by
  have hname : ∀ {host name}, parseHostname host = .ok name → '#' ∉ host := by
    intro host name hname hmem
    have hnormal : ∀ {name : List Char}, '#' ∈ name → Domain.normalize? name = none := by
      intro name hmem
      rw [← Option.not_isSome_iff_eq_none]
      intro hsome
      obtain hblank | hchar := Domain.isBlank_or_isHostChar hsome hmem
      · exact absurd hblank (by decide)
      · exact absurd hchar (by decide)
    rw [parseHostname] at hname
    cases hdrop : Text.dropEnd? ".*" host with
    | some entity =>
      rw [Text.dropEnd?_eq_some.1 hdrop] at hmem
      rw [hdrop] at hname
      dsimp only at hname
      rw [hnormal ((List.mem_append.1 hmem).resolve_right (by decide))] at hname
      cases hname
    | none =>
      rw [hdrop] at hname
      dsimp only at hname
      rw [hnormal hmem] at hname
      cases hname
  intro hmem
  rw [← Text.intercalate_splitOn ',' text] at hmem
  obtain ⟨piece, hpiece, hmem⟩ := Text.mem_of_mem_intercalate (by decide) hmem
  have hpart := Text.mem_trim hmem (by decide)
  have hparts : Text.trim piece ∈ ((Text.splitOn ',' text).map Text.trim).filter (!·.isEmpty) := by
    refine List.mem_filter.2 ⟨List.mem_map_of_mem hpiece, ?_⟩
    rw [Bool.not_eq_true', List.isEmpty_eq_false_iff]
    exact List.ne_nil_of_mem hpart
  obtain ⟨name, -, hread⟩ := exists_mem_of_mapM h hparts
  generalize Text.trim piece = part at hpart hread
  split at hread
  · next host =>
    obtain ⟨found, hfound, -⟩ := ok_of_map hread
    exact hname hfound ((List.mem_cons.1 hpart).resolve_left (by decide))
  · obtain ⟨found, hfound, -⟩ := ok_of_map hread
    exact hname hfound hpart

/-- What becomes of a line: the hosts stand before the first separator, the body after it. -/
structure IsSplit (filter : CosmeticFilter) (hosts : List Char) (sep : Separator) (body : List Char) :
    Prop where
  cut : cutSeparator? filter.raw.toList = some (hosts, sep, body)
  names : ∃ names, parseHostnames hosts = .ok names ∧
    filter.hostnames = (names.filter (!·.1)).map (·.2) ∧
    filter.notHostnames = (names.filter (·.1)).map (·.2)
  unhide : filter.unhide = sep.unhide
  body : parseBody sep.unhide sep.extended (Text.trim body) = .ok (filter.kind, filter.selector)

theorem exists_isSplit (h : parseChars line = .ok filter) :
    ∃ hosts sep body, filter.IsSplit hosts sep body := by
  have hraw := raw_of_parseChars h
  unfold parseChars at h
  extract_lets raw at h
  split at h
  · cases h
  · next hosts sep body hcut =>
    obtain ⟨names, hnames, h⟩ := ok_of_bind h
    obtain ⟨found, hfound, h⟩ := ok_of_bind h
    cases h
    refine ⟨hosts, sep, body, ?_, ⟨names, hnames, rfl, rfl⟩, rfl, hfound⟩
    rw [hraw, String.toList_ofList, ← hcut]

theorem IsSplit.isBody {hosts body : List Char} {sep : Separator} (h : filter.IsSplit hosts sep body) :
    IsBody filter.unhide (Text.trim body) filter.kind filter.selector := by
  rw [h.unhide]
  exact isBody_of_parseBody h.body

end ContentFilter.CosmeticFilter
