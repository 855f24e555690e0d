import ContentFilter.Proofs.Allow.PausedPages
import ContentFilter.Proofs.Config.Bus
import ContentFilter.Allow.Pause
import ContentFilter.Matching.Query

/-! A host is paused under its key, which is the host without the blanks around it and the points at its
end. A page is looked up by its host as it stands in the address, so a host is not always paused by its
own pause. -/

namespace ContentFilter

namespace KeyMap

variable {ε α : Type} {p : String × α → Except ε Bool} {key : String}

/-- Entries that fail a test are of no account to it. -/
theorem anyM_insertEntry (h : ∀ value, p (key, value) = .ok false) (value : α)
    (entries : List (String × α)) : (insertEntry key value entries).anyM p = entries.anyM p := by
  induction entries with
  | nil => simp [insertEntry, List.anyM, h, bind, Except.bind, pure, Except.pure]
  | cons entry rest ih =>
    obtain ⟨other, old⟩ := entry
    rw [insertEntry]
    split
    · rw [List.anyM, h]
      rfl
    split
    · rw [List.anyM, List.anyM, ih]
    · next hnot hnot' =>
      obtain rfl : other = key := String.le_antisymm hnot hnot'
      rw [List.anyM, List.anyM, h, h]

end KeyMap

namespace Domain

variable {host domain labels : List Char}

/-- A subdomain lies within the same names as its parent, as far as they are not longer. -/
theorem isWithin_append_point (hhost : IsAscii host) (hshort : Text.Utf8.size domain ≤ host.length) :
    isWithin (labels ++ '.' :: host) domain = isWithin host domain := by
  by_cases hne : domain = []
  · subst hne
    rfl
  · have hsplit := List.take_append_drop (host.length - Text.Utf8.size domain) host
    have hsize : Text.Utf8.size (host.drop (host.length - Text.Utf8.size domain)) =
        Text.Utf8.size domain := by
      have hdrop : IsAscii (host.drop (host.length - Text.Utf8.size domain)) :=
        fun c hc => hhost c (List.mem_of_mem_drop hc)
      rw [hdrop.size, List.length_drop]
      omega
    generalize host.take (host.length - Text.Utf8.size domain) = before at hsplit
    generalize host.drop (host.length - Text.Utf8.size domain) = ending at hsplit hsize
    have hlonger : labels ++ '.' :: host = (labels ++ '.' :: before) ++ ending := by
      rw [← hsplit, List.append_assoc, List.cons_append]
    rw [hlonger, isWithin_append hne hsize, ← hsplit, isWithin_append hne hsize]
    cases before with
    | nil => simp
    | cons c before =>
      have hsome : (labels ++ '.' :: c :: before).isEmpty = false := by simp
      rw [hsome, List.getLast?_append_of_ne_nil _ (List.cons_ne_nil _ _), List.getLast?_cons_cons]
      rfl

end Domain

open Domain (IsAscii isWithin)
open Text (isBlank)
open Trust (IsUnder isPaused)

/-- A test of a page that a pause is for does not deny it, whether or not other keys cut its name. -/
theorem Trust.isPaused_ne_false {config : Config} {page : String} {now : Nat}
    (h : config.Pauses now page) : isPaused config page now ≠ .ok false := by
  intro hfalse
  obtain ⟨key, entry, hentry, hactive, hkey⟩ := h
  have htest := false_of_anyM hfalse (KeyMap.get?_eq_some.1 hentry)
  rcases hkey with hall | hunder
  · simp [hactive, hall] at htest
  · rw [IsUnder] at hunder
    simp [hactive, hunder] at htest

namespace Pause

variable {host page : String} {revokeAt : Option Nat} {now : Nat} {bus : Bus}

/-- The page is of the host or of a subdomain. -/
def IsPageOf (page host : String) : Prop := page = host ∨ ∃ labels, page = labels ++ "." ++ host

/-- The key that the host is paused under is one that the host itself is looked up by. -/
def Reaches (host : String) : Prop := keyOf host = allPages ∨ IsUnder host (keyOf host)

theorem keyOf_of_ne (h : host ≠ allPages) : keyOf host = Trust.ruleDomain host := by
  rw [keyOf, if_neg (by simpa using h)]
  rfl

/-- The key is not longer than the host. -/
theorem size_keyOf_le (hhost : IsAscii host.toList) :
    Text.Utf8.size (keyOf host).toList ≤ host.toList.length := by
  by_cases hall : host = allPages
  · subst hall
    decide
  · have hpart : (Text.dropEndWhile (· == '.') (Text.trim host.toList)).Sublist host.toList :=
      ((List.rdropWhile_prefix _ _).sublist.trans (List.rdropWhile_prefix _ _).sublist).trans
        (List.dropWhile_sublist _)
    have hascii : IsAscii (Text.dropEndWhile (· == '.') (Text.trim host.toList)) :=
      fun c hc => hhost c (hpart.subset hc)
    rw [keyOf_of_ne hall, Trust.ruleDomain, String.toList_ofList,
      (Domain.isAscii_lower.2 hascii).size, Text.length_lower]
    exact hpart.length_le

/-- The pages of a host lie within its key together. -/
theorem isWithin_keyOf (hhost : IsAscii host.toList) (hpage : IsPageOf page host) :
    isWithin page.toList (keyOf host).toList = isWithin host.toList (keyOf host).toList := by
  rcases hpage with rfl | ⟨labels, rfl⟩
  · rfl
  · have hlabels : (labels ++ "." ++ host).toList = labels.toList ++ '.' :: host.toList := by simp
    rw [hlabels]
    exact Domain.isWithin_append_point hhost (size_keyOf_le hhost)

/-- The key of a host ends in no point. A host without blanks that does not either is its own key. -/
theorem reaches_iff_of_not_blank (hhost : IsAscii host.toList) (hne : host ≠ "")
    (hblank : ∀ c ∈ host.toList, isBlank c = false) :
    Reaches host ↔ keyOf host = allPages ∨ host.toList.getLast? ≠ some '.' := by
  unfold Reaches
  by_cases hall : keyOf host = allPages
  · simp [hall]
  · have hkey : keyOf host = Trust.ruleDomain host := by
      apply keyOf_of_ne
      rintro rfl
      exact hall rfl
    have hself : IsUnder host host := by
      have hne' : host.toList ≠ [] := by simpa using hne
      have hwithin := @Domain.isWithin_append host.toList [] host.toList hne' rfl
      rw [IsUnder]
      simpa [Text.equalFold] using hwithin
    rw [or_iff_right hall, or_iff_right hall, hkey]
    constructor
    · exact Trust.last_of_isUnder_ruleDomain hhost
    · intro hlast
      exact (Trust.isUnder_ruleDomain_of_tidy hhost (Trust.isTidy_of_last hblank hlast)).2 hself

theorem pauses_pause (hhost : IsAscii host.toList) (hreaches : Reaches host)
    (hrevoke : ∀ time, revokeAt = some time → now < time) (hpage : IsPageOf page host) :
    (pause host revokeAt bus).2.config.Pauses now page := by
  refine ⟨keyOf host, ⟨revokeAt⟩, ?_, ?_, ?_⟩
  · simp [pause, KeyMap.get?_insert_self]
  · cases revokeAt with
    | none => rfl
    | some time => simpa [PausedEntry.isActive] using hrevoke time rfl
  · rw [IsUnder, isWithin_keyOf hhost hpage]
    exact hreaches

/-- A pause under a key that the host is not looked up by is of no account to its pages. -/
theorem isPaused_pause_of_not_reaches (hhost : IsAscii host.toList) (hnot : ¬ Reaches host)
    (hpage : IsPageOf page host) :
    isPaused (pause host revokeAt bus).2.config page now = isPaused bus.config page now := by
  obtain ⟨hall, hunder⟩ := not_or.1 hnot
  obtain ⟨within, hwithin⟩ := Domain.isWithin_answers hhost (keyOf host).toList
  have hfalse : isWithin page.toList (keyOf host).toList = .ok false := by
    cases within with
    | true => exact absurd hwithin hunder
    | false => exact (isWithin_keyOf hhost hpage).trans hwithin
  rw [pause, Bus.update_config]
  apply KeyMap.anyM_insertEntry
  intro entry
  simp [hall, hfalse]

/-- What is left is what was there before the pause, without an entry for the host. -/
theorem resume_pause_config :
    (resume host (pause host revokeAt bus).2).2.config =
      { bus.config with paused := bus.config.paused.erase (keyOf host) } := by
  simp [resume, pause, KeyMap.erase_insert_self]

theorem resume_pause : (resume host (pause host revokeAt bus).2).1 = true := by
  have hchanged : (pause host revokeAt bus).2.config.paused.erase (keyOf host) ≠
      (pause host revokeAt bus).2.config.paused := by
    intro hsame
    have hgone := congrArg (KeyMap.get? · (keyOf host)) hsame
    simp [pause, KeyMap.get?_insert_self, KeyMap.get?_erase] at hgone
  rw [resume, Bus.update, if_neg]
  intro hsame
  exact hchanged (congrArg Config.paused hsame)

/-- The pause of a page's host reaches the pages of the host, those of subdomains too, exactly when the host
is looked up by the key it is paused under; else it is of no account to them. A host without blanks is
missed when a point stands at its end. Ending the pause takes out what it put in. -/
theorem pause_own_host (bus : Bus) (url : String) (revokeAt : Option Nat) (now : Nat) (host : String)
    (hurl : (CosmeticQuery.ofUrl url).hostname = host) (hne : host ≠ "")
    (hhost : IsAscii host.toList) (hrevoke : ∀ time, revokeAt = some time → now < time) :
    (∀ suffixes, (Request.page suffixes url).hostname = host) ∧
    (∀ page, IsPageOf page host →
      (Reaches host →
        isPaused (pause host revokeAt bus).2.config page now ≠ .ok false ∧
        (IsAscii page.toList → isPaused (pause host revokeAt bus).2.config page now = .ok true)) ∧
      (¬ Reaches host →
        isPaused (pause host revokeAt bus).2.config page now = isPaused bus.config page now)) ∧
    ((∀ c ∈ host.toList, isBlank c = false) →
      (Reaches host ↔ keyOf host = allPages ∨ host.toList.getLast? ≠ some '.')) ∧
    (resume host (pause host revokeAt bus).2).1 = true ∧
    (resume host (pause host revokeAt bus).2).2.config =
      { bus.config with paused := bus.config.paused.erase (keyOf host) } := by
  refine ⟨?_, ?_, reaches_iff_of_not_blank hhost hne, resume_pause, resume_pause_config⟩
  · intro suffixes
    exact hurl
  · intro page hpage
    constructor
    · intro hreaches
      have hpauses := @pauses_pause host page revokeAt now bus hhost hreaches hrevoke hpage
      constructor
      · exact Trust.isPaused_ne_false hpauses
      · intro hascii
        obtain ⟨paused, hpaused, hiff⟩ := @Trust.isPaused_answers _ now page hascii
        rw [hpaused, hiff.2 hpauses]
    · intro hnot
      exact isPaused_pause_of_not_reaches hhost hnot hpage

/-- A port and letters in upper case are no obstacle. -/
theorem pause_own_host_shop :
    ((CosmeticQuery.ofUrl "https://Shop.Example:8443/cart").hostname = "shop.example" ∧
      "shop.example" ≠ "" ∧ IsAscii "shop.example".toList ∧
      ∀ time, some 3000 = some time → 2000 < time) ∧
    isPaused (pause "shop.example" (some 3000) { config := {} }).2.config "pay.shop.example" 2000 =
      .ok true := by
  have hurl : (CosmeticQuery.ofUrl "https://Shop.Example:8443/cart").hostname = "shop.example" := by
    decide +kernel
  have hne : "shop.example" ≠ "" := by decide
  have hhost : IsAscii "shop.example".toList := by decide
  have hrevoke : ∀ time, some 3000 = some time → 2000 < time := by
    intro time htime
    cases htime
    decide
  obtain ⟨-, hpages, -⟩ := pause_own_host { config := {} } "https://Shop.Example:8443/cart" (some 3000)
    2000 "shop.example" hurl hne hhost hrevoke
  have hpage : IsPageOf "pay.shop.example" "shop.example" := .inr ⟨"pay", rfl⟩
  exact ⟨⟨hurl, hne, hhost, hrevoke⟩, ((hpages _ hpage).1 (.inr rfl)).2 (by decide)⟩

/-- The point at the end of a full name is not part of the key, and the page is not paused. -/
theorem not_isPaused_pause_of_point :
    (CosmeticQuery.ofUrl "https://site.com./").hostname = "site.com." ∧
      isPaused (pause "site.com." none { config := {} }).2.config "site.com." 0 = .ok false ∧
      isPaused (pause "site.com." none { config := {} }).2.config "a.site.com." 0 = .ok false := by
  decide +kernel

end Pause

end ContentFilter
