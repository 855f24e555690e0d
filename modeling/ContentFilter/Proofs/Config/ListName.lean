import ContentFilter.Config.Basic
import ContentFilter.Rule.Fixes

/-! Which names of lists a configuration can ask for. -/

namespace ContentFilter.ListName

theorem mem_regions {name : String} {names : List String} (h : name ∈ regions names) :
    ∃ region ∈ names, name = regional region := by
  induction names with
  | nil => cases h
  | cons region rest ih =>
    rw [regions, List.mem_cons] at h
    rcases h with h | h
    · exact ⟨region, List.mem_cons_self, h⟩
    · obtain ⟨other, hmem, hname⟩ := ih (List.mem_filter.1 h).1
      exact ⟨other, List.mem_cons_of_mem region hmem, hname⟩

theorem regional_mem_regions {region : String} {names : List String} (h : region ∈ names) :
    regional region ∈ regions names := by
  induction names with
  | nil => cases h
  | cons first rest ih =>
    rw [regions, List.mem_cons]
    by_cases heq : regional region = regional first
    · exact .inl heq
    · right
      rcases List.mem_cons.1 h with rfl | hrest
      · exact absurd rfl heq
      · exact List.mem_filter.2 ⟨ih hrest, bne_iff_ne.2 heq⟩

theorem regional_mem_enabled {region : String} {config : Config}
    (henabled : config.regionalFilters.enabled = true)
    (h : region ∈ config.regionalFilters.regions) : regional region ∈ enabled config := by
  simp [enabled, henabled, regional_mem_regions h]

/-- What is asked for is one of five lists or that of a region. -/
theorem of_mem_enabled {name : String} {config : Config} (h : name ∈ enabled config) :
    name ∈ [ads, tracking, annoyances, custom, elementPicker] ∨
      config.regionalFilters.enabled = true ∧
        ∃ region ∈ config.regionalFilters.regions, name = regional region := by
  simp only [enabled, List.mem_append] at h
  have hlist : ∀ (p : Prop) [Decidable p] (other : String), name ∈ (if p then [other] else []) →
      name = other := by
    intro p _ other hmem
    split at hmem
    · exact List.mem_singleton.1 hmem
    · cases hmem
  rcases h with ((((h | h) | h) | h) | h) | h
  · exact .inl (by simp [hlist _ _ h])
  · exact .inl (by simp [hlist _ _ h])
  · exact .inl (by simp [hlist _ _ h])
  · split at h
    · next henabled => exact .inr ⟨henabled, mem_regions h⟩
    · cases h
  · exact .inl (by simp [hlist _ _ h])
  · exact .inl (by simp [hlist _ _ h])

theorem regional_ne {name : String} (h : name.toList.take 5 ≠ "lang-".toList) (region : String) :
    name ≠ regional region := by
  rintro rfl
  refine h ?_
  rw [regional, String.toList_append, String.toList_ofList]
  rfl

/-- The shipped fixes are no list that a configuration can ask for. -/
theorem fixes_not_mem_enabled (config : Config) : Fixes.ruleset ∉ enabled config := by
  intro h
  rcases of_mem_enabled h with h | ⟨-, region, -, h⟩
  · exact absurd h (by decide)
  · exact regional_ne (by decide) region h

/-- The main engine is made of lists and is none itself. -/
theorem main_not_mem_enabled (config : Config) : main ∉ enabled config := by
  intro h
  rcases of_mem_enabled h with h | ⟨-, region, -, h⟩
  · exact absurd h (by decide)
  · exact regional_ne (by decide) region h

theorem regions_nodup (names : List String) : (regions names).Nodup := by
  induction names with
  | nil => exact List.nodup_nil
  | cons region names ih =>
    rw [regions, List.nodup_cons]
    exact ⟨by simp, ih.filter _⟩

/-- No list is asked for twice. -/
theorem enabled_nodup (config : Config) : (enabled config).Nodup := by
  have hone : ∀ (p : Prop) [Decidable p] (name : String),
      (if p then [name] else []).Sublist [name] := by
    intro p _ name
    split
    · exact List.Sublist.refl _
    · exact List.nil_sublist _
  have hregions : (if config.regionalFilters.enabled then regions config.regionalFilters.regions
      else []).Sublist (regions config.regionalFilters.regions) := by
    split
    · exact List.Sublist.refl _
    · exact List.nil_sublist _
  have hall : (enabled config).Sublist ([ads, tracking, annoyances] ++
      (regions config.regionalFilters.regions ++ [custom, elementPicker])) := by
    have hparts := (((((hone (config.blockAds = true) ads).append
      (hone (config.blockTrackers = true) tracking)).append
        (hone (config.blockAnnoyances = true) annoyances)).append hregions).append
          (hone (config.effectiveCustomFilters.isSome = true) custom)).append
            (hone (config.hasPickedElements = true) elementPicker)
    simpa [enabled] using hparts
  have hfive : ∀ name ∈ [ads, tracking, annoyances, custom, elementPicker],
      name.toList.take 5 ≠ "lang-".toList := by decide
  have hother : ∀ name ∈ [ads, tracking, annoyances, custom, elementPicker],
      name ∉ regions config.regionalFilters.regions := by
    intro name hname hregion
    obtain ⟨region, -, heq⟩ := mem_regions hregion
    exact regional_ne (hfive name hname) region heq
  have hapart : ∀ name ∈ [ads, tracking, annoyances], name ∉ [custom, elementPicker] := by decide
  refine hall.nodup (List.nodup_append.2 ⟨by decide, ?_, ?_⟩)
  · refine List.nodup_append.2 ⟨regions_nodup _, by decide, ?_⟩
    rintro name hregion _ hname rfl
    exact hother name (List.mem_append_right [ads, tracking, annoyances] hname) hregion
  · rintro name hname _ hmem rfl
    rcases List.mem_append.1 hmem with hregion | hlast
    · exact hother name (List.mem_append_left [custom, elementPicker] hname) hregion
    · exact absurd hlast (hapart name hname)

end ContentFilter.ListName
