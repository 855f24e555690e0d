import ContentFilter.Proofs.Text.Basic
import ContentFilter.Url.Location

/-! A web address put together from its parts, and where its host stands in it; and the three pieces
that any address is cut into. -/

namespace ContentFilter.Url

/-- A host as it stands in an address: a name, or a literal in brackets. -/
inductive IsHost : List Char → Prop where
  | name {host : List Char} (nonempty : host ≠ []) (first : host.head? ≠ some '[')
      (chars : ∀ c ∈ host, isAuthorityEnd c = false ∧ c ≠ '@' ∧ c ≠ ':') : IsHost host
  | bracketed {inside : List Char} (chars : ∀ c ∈ inside, isAuthorityEnd c = false ∧ c ≠ '@' ∧ c ≠ ']') :
      IsHost ('[' :: inside ++ [']'])

/-- The parts of an address with a host. -/
structure Parts where
  scheme : List Char
  /-- What stands before the last at sign of the authority. -/
  user : Option (List Char)
  host : List Char
  /-- What stands after the colon that follows the host. -/
  port : Option (List Char)
  tail : List Char
  scheme_plain : ':' ∉ scheme
  user_inside : ∀ c ∈ user.getD [], isAuthorityEnd c = false
  isHost : IsHost host
  port_inside : ∀ c ∈ port.getD [], isAuthorityEnd c = false ∧ c ≠ '@'
  tail_outside : ∀ c, tail.head? = some c → isAuthorityEnd c = true

/-- A text and the sign that ends it. -/
def ended (text : Option (List Char)) (sign : Char) : List Char :=
  match text with
  | some text => text ++ [sign]
  | none => []

/-- A text and the sign that it begins with. -/
def begun (sign : Char) (text : Option (List Char)) : List Char :=
  match text with
  | some text => sign :: text
  | none => []

variable {s : List Char} {c sign : Char} {part : Option (List Char)}

theorem mem_ended (h : c ∈ ended part sign) : c ∈ part.getD [] ∨ c = sign := by
  cases part with
  | none => cases h
  | some part => simpa [ended] using h

theorem mem_begun (h : c ∈ begun sign part) : c = sign ∨ c ∈ part.getD [] := by
  cases part with
  | none => cases h
  | some part => simpa [begun] using h

theorem IsHost.nonempty (h : IsHost s) : s ≠ [] := by
  cases h with
  | name nonempty _ _ => exact nonempty
  | bracketed _ => exact List.cons_ne_nil _ _

theorem IsHost.chars (h : IsHost s) : ∀ c ∈ s, isAuthorityEnd c = false ∧ c ≠ '@' := by
  intro c hc
  cases h with
  | name _ _ chars => exact ⟨(chars c hc).1, (chars c hc).2.1⟩
  | bracketed chars =>
    rw [List.cons_append, List.mem_cons, List.mem_append, List.mem_singleton] at hc
    rcases hc with rfl | hc | rfl
    · decide
    · exact ⟨(chars c hc).1, (chars c hc).2.1⟩
    · decide

/-- A host is cut off before its port. -/
theorem splitHost_append (h : IsHost s) (port : Option (List Char)) :
    splitHost (s ++ begun ':' port) = (s, begun ':' port) := by
  cases h with
  | name nonempty first chars =>
    have hhead : ((s ++ begun ':' port).head? == some '[') = false := by
      rw [List.head?_append_of_ne_nil _ nonempty]
      simpa using first
    have hkept : ∀ c ∈ s, (c != ':') = true := by
      intro c hc
      simpa using (chars c hc).2.2
    have hcolon : ∀ c, (begun ':' port).head? = some c → (c != ':') = false := by
      intro c hc
      cases port with
      | none => cases hc
      | some port =>
        cases hc
        decide
    rw [splitHost, hhead, Text.takeWhile_append_of_head? hkept hcolon,
      Text.dropWhile_append_of_head? hkept hcolon]
    rfl
  | @bracketed inside chars =>
    have hcut : Text.cut? [']'] ('[' :: inside ++ [']'] ++ begun ':' port) =
        some ('[' :: inside, begun ':' port) := by
      rw [Text.cut?_eq_some]
      constructor
      · rintro (_ | ⟨_, hmem⟩)
        exact (chars ']' hmem).2.2 rfl
      · simp
    rw [splitHost, hcut]
    rfl

namespace Parts

variable (parts : Parts)

/-- What stands between the slashes and the tail. -/
def authority : List Char := ended parts.user '@' ++ (parts.host ++ begun ':' parts.port)

/-- The address of the parts. -/
def text : List Char := parts.scheme ++ ':' :: '/' :: '/' :: (parts.authority ++ parts.tail)

theorem authority_inside : ∀ c ∈ parts.authority, (!isAuthorityEnd c) = true := by
  intro c hc
  rw [Bool.not_eq_true']
  unfold authority at hc
  rcases List.mem_append.1 hc with hc | hc
  · rcases mem_ended hc with hc | rfl
    · exact parts.user_inside c hc
    · decide
  rcases List.mem_append.1 hc with hc | hc
  · exact (parts.isHost.chars c hc).1
  · rcases mem_begun hc with rfl | hc
    · decide
    · exact (parts.port_inside c hc).1

theorem at_not_mem_place : '@' ∉ parts.host ++ begun ':' parts.port := by
  intro hmem
  rcases List.mem_append.1 hmem with hmem | hmem
  · exact (parts.isHost.chars '@' hmem).2 rfl
  · rcases mem_begun hmem with heq | hmem
    · cases heq
    · exact (parts.port_inside '@' hmem).2 rfl

theorem cutLast?_authority : Text.cutLast? ['@'] parts.authority =
    parts.user.map (·, parts.host ++ begun ':' parts.port) := by
  unfold authority
  cases parts.user with
  | none =>
    rw [ended, List.nil_append, Text.cutLast?_eq_none.2]
    · rfl
    · rw [List.singleton_infix_iff]
      exact parts.at_not_mem_place
  | some user =>
    rw [ended, List.append_assoc, List.singleton_append,
      Text.cutLast?_append parts.at_not_mem_place]
    rfl

theorem scheme?_text : scheme? parts.text =
    some (parts.scheme ++ [':', '/', '/'], parts.authority ++ parts.tail) := by
  rw [scheme?, text, Text.cut?_eq_some.2 ⟨parts.scheme_plain, rfl⟩]
  rfl

/-- The host of an address is the one that it was put together with. -/
theorem locate?_text : locate? parts.text =
    some ⟨parts.scheme ++ [':', '/', '/'] ++ ended parts.user '@', parts.host,
      begun ':' parts.port ++ parts.tail⟩ := by
  have htail : ∀ c, parts.tail.head? = some c → (!isAuthorityEnd c) = false := by
    intro c hc
    rw [parts.tail_outside c hc]
    rfl
  have hempty : parts.host.isEmpty = false := by
    rw [List.isEmpty_eq_false_iff]
    exact parts.isHost.nonempty
  rw [locate?, scheme?_text]
  dsimp only
  rw [Text.takeWhile_append_of_head? parts.authority_inside htail,
    Text.dropWhile_append_of_head? parts.authority_inside htail, cutLast?_authority]
  cases huser : parts.user with
  | none =>
    have hplace : parts.authority = parts.host ++ begun ':' parts.port := by
      rw [authority, huser]
      rfl
    simp only [Option.map_none, hplace, splitHost_append parts.isHost, hempty]
    rfl
  | some user =>
    simp only [Option.map_some, splitHost_append parts.isHost, hempty]
    rfl

/-- The address of the start page of a host. -/
def ofHost {host : List Char} (isHost : IsHost host) : Parts where
  scheme := "http".toList
  user := none
  host
  port := none
  tail := ['/']
  scheme_plain := by decide
  user_inside := nofun
  isHost
  port_inside := nofun
  tail_outside := by
    rintro c ⟨⟩
    decide

end Parts

section Pieces

variable {url before rest : List Char}

theorem scheme?_append (h : scheme? url = some (before, rest)) : url = before ++ rest := by
  unfold scheme? at h
  split at h
  · next scheme after hcut =>
    cases h
    simpa using Text.cut?_append hcut
  · next scheme after _ hcut =>
    split at h
    · cases h
      simpa using Text.cut?_append hcut
    · cases h
  · cases h

theorem splitHost_pieces (s : List Char) : (splitHost s).1 ++ (splitHost s).2 = s := by
  unfold splitHost
  split
  · split
    · next inside after hcut => simpa using (Text.cut?_append hcut).symm
    · exact List.append_nil s
  · exact List.takeWhile_append_dropWhile

theorem place_append {front place tail : List Char} {location : Location}
    (h : (if (splitHost place).1.isEmpty then none
      else some ⟨front, (splitHost place).1, (splitHost place).2 ++ tail⟩) = some location) :
    location.before ++ (location.host ++ location.after) = front ++ (place ++ tail) := by
  split at h
  · cases h
  · cases h
    rw [← List.append_assoc (splitHost place).1, splitHost_pieces]

/-- Nothing of an address is lost around its host. -/
theorem locate?_append {location : Location} (h : locate? url = some location) :
    url = location.before ++ (location.host ++ location.after) := by
  unfold locate? at h
  split at h
  · cases h
  next scheme rest hscheme =>
    extract_lets authority tail at h
    have hrest : authority ++ tail = rest := List.takeWhile_append_dropWhile
    rw [scheme?_append hscheme, ← hrest]
    cases hcut : Text.cutLast? ['@'] authority with
    | none =>
      rw [hcut] at h
      rw [place_append h, List.append_nil]
    | some sides =>
      obtain ⟨user, place⟩ := sides
      rw [hcut] at h
      rw [place_append h, Text.eq_append_of_cutLast? hcut]
      simp only [List.append_assoc]

/-- The range of a host says which bytes of the address are its own. -/
theorem bytes_of_range {location : Location} (h : locate? url = some location) :
    ((Text.Utf8.encode url).take location.range.2).drop location.range.1 =
      Text.Utf8.encode location.host := by
  have hbefore : location.range.1 = (Text.Utf8.encode location.before).length :=
    (Text.Utf8.length_encode _).symm
  have hend : location.range.2 =
      (Text.Utf8.encode location.before ++ Text.Utf8.encode location.host).length := by
    rw [List.length_append, Text.Utf8.length_encode, Text.Utf8.length_encode]
    rfl
  rw [locate?_append h, Text.Utf8.encode_append, Text.Utf8.encode_append, ← List.append_assoc,
    hend, List.take_left, hbefore, List.drop_left]

end Pieces

namespace Parts

/-- An address gives back the host that it was put together with and the bytes where it stands,
whatever signs the other parts have. -/
theorem gives_host_back (parts : Parts) :
    host? parts.text = some parts.host ∧
    ∃ start stop, (locate? parts.text).map (·.range) = some (start, stop) ∧
      start = Text.Utf8.size (parts.scheme ++ "://".toList ++ ended parts.user '@') ∧
      stop = start + Text.Utf8.size parts.host ∧
      ((Text.Utf8.encode parts.text).take stop).drop start = Text.Utf8.encode parts.host := by
  have hlocated := parts.locate?_text
  refine ⟨?_, _, _, ?_, rfl, rfl, ?_⟩
  · rw [host?, hlocated]
    rfl
  · rw [hlocated]
    rfl
  · exact bytes_of_range hlocated

/-- An address that shows two other hosts before its own and one behind it. -/
def disguised : Parts where
  scheme := "ftp".toList
  user := some "good.com:80@[é.com".toList
  host := "[::1]".toList
  port := some "8]".toList
  tail := "?u@good.com//#:".toList
  scheme_plain := by decide
  user_inside := by simp [isAuthorityEnd]
  isHost := @IsHost.bracketed "::1".toList (by simp [isAuthorityEnd])
  port_inside := by simp [isAuthorityEnd]
  tail_outside := by
    rintro c ⟨⟩
    decide

theorem gives_host_back_disguised :
    disguised.text = "ftp://good.com:80@[é.com@[::1]:8]?u@good.com//#:".toList ∧
    host? disguised.text = some "[::1]".toList ∧
    (locate? disguised.text).map (·.range) = some (26, 31) := by
  obtain ⟨hhost, start, stop, hrange, hstart, hstop, -⟩ := gives_host_back disguised
  refine ⟨by decide, hhost, ?_⟩
  rw [hrange, hstop, hstart]
  decide

end Parts

end ContentFilter.Url
