import ContentFilter.Data.KeyMap

/-! What a map has under its keys after entries are put in and taken out. -/

namespace ContentFilter.KeyMap

variable {α : Type}

theorem mem_map_insertEntry {key k : String} {value : α} {entries : List (String × α)} :
    k ∈ (insertEntry key value entries).map (·.1) ↔ k = key ∨ k ∈ entries.map (·.1) := by
  induction entries with
  | nil => simp [insertEntry]
  | cons head rest ih =>
    obtain ⟨other, v⟩ := head
    rw [insertEntry]
    split
    · simp
    split
    · rw [List.map_cons, List.mem_cons, ih]
      simp only [List.map_cons, List.mem_cons]
      exact or_left_comm
    · next hnot hnot' =>
      obtain rfl : other = key := String.le_antisymm hnot hnot'
      simp

theorem mem_keys_insert {map : KeyMap α} {key k : String} {value : α} :
    k ∈ (map.insert key value).keys ↔ k = key ∨ k ∈ map.keys := mem_map_insertEntry

theorem lookup_cons_ite (k other : String) (v : α) (rest : List (String × α)) :
    ((other, v) :: rest).lookup k = if k = other then some v else rest.lookup k := by
  rw [List.lookup_cons]
  by_cases h : k = other
  · simp [h]
  · rw [beq_eq_false_iff_ne.2 h, if_neg h]

theorem lookup_insertEntry (key k : String) (value : α) (entries : List (String × α)) :
    (insertEntry key value entries).lookup k = if k = key then some value else entries.lookup k := by
  induction entries with
  | nil => rw [insertEntry, lookup_cons_ite]
  | cons head rest ih =>
    obtain ⟨other, v⟩ := head
    rw [insertEntry]
    split
    · rw [lookup_cons_ite]
    split
    · next hother =>
      have hne : key ≠ other := (String.ne_of_lt hother).symm
      rw [lookup_cons_ite, lookup_cons_ite, ih]
      by_cases h : k = key
      · rw [if_neg (h ▸ hne), if_pos h, if_pos h]
      · rw [if_neg h, if_neg h]
    · next hnot hnot' =>
      obtain rfl : other = key := String.le_antisymm hnot hnot'
      rw [lookup_cons_ite, lookup_cons_ite]
      by_cases h : k = other
      · rw [if_pos h, if_pos h]
      · rw [if_neg h, if_neg h, if_neg h]

theorem get?_insert (map : KeyMap α) (key k : String) (value : α) :
    (map.insert key value).get? k = if k = key then some value else map.get? k :=
  lookup_insertEntry key k value map.entries

theorem get?_insert_self (map : KeyMap α) (key : String) (value : α) :
    (map.insert key value).get? key = some value := by
  rw [get?_insert, if_pos rfl]

theorem get?_insert_of_ne (map : KeyMap α) {key k : String} (h : k ≠ key) (value : α) :
    (map.insert key value).get? k = map.get? k := by
  rw [get?_insert, if_neg h]

theorem lookup_filter_ne (key k : String) (entries : List (String × α)) :
    (entries.filter (·.1 != key)).lookup k = if k = key then none else entries.lookup k := by
  induction entries with
  | nil => simp
  | cons entry rest ih =>
    obtain ⟨other, v⟩ := entry
    by_cases hother : other = key
    · rw [List.filter_cons_of_neg (by simp [hother]), ih, lookup_cons_ite, hother]
      by_cases h : k = key
      · rw [if_pos h, if_pos h]
      · rw [if_neg h, if_neg h, if_neg h]
    · rw [List.filter_cons_of_pos (by simp [hother]), lookup_cons_ite, lookup_cons_ite, ih]
      by_cases h : k = key
      · rw [if_pos h, if_neg (h ▸ Ne.symm hother), if_pos h]
      · rw [if_neg h, if_neg h]

theorem get?_erase (map : KeyMap α) (key k : String) :
    (map.erase key).get? k = if k = key then none else map.get? k := lookup_filter_ne key k map.entries

theorem get?_foldl_erase (names : List String) (map : KeyMap α) (k : String) :
    (names.foldl erase map).get? k = if k ∈ names then none else map.get? k := by
  induction names generalizing map with
  | nil => simp
  | cons name names ih =>
    rw [List.foldl_cons, ih, get?_erase]
    by_cases hmem : k ∈ names
    · rw [if_pos hmem, if_pos (List.mem_cons_of_mem name hmem)]
    · simp only [List.mem_cons, hmem, or_false, if_false]

/-- The keys are in order, so that each of them has one entry. -/
theorem get?_eq_some {map : KeyMap α} {k : String} {value : α} :
    map.get? k = some value ↔ (k, value) ∈ map.entries := by
  have hall : ∀ entries : List (String × α), entries.Pairwise (fun a b => a.1 < b.1) →
      (entries.lookup k = some value ↔ (k, value) ∈ entries) := by
    intro entries hordered
    induction entries with
    | nil => simp
    | cons entry rest ih =>
      obtain ⟨other, v⟩ := entry
      obtain ⟨hfirst, hrest⟩ := List.pairwise_cons.1 hordered
      rw [lookup_cons_ite, List.mem_cons, Prod.mk.injEq]
      by_cases hk : k = other
      · have hlater : (k, value) ∉ rest := fun hmem => String.lt_irrefl other (hk ▸ hfirst _ hmem)
        simp [hk, eq_comm, hk ▸ hlater]
      · simp [hk, ih hrest]
  exact hall map.entries map.ordered

theorem mem_keys {map : KeyMap α} {k : String} : k ∈ map.keys ↔ ∃ value, map.get? k = some value := by
  simp [keys, get?_eq_some]

/-- Maps with the same values under all keys are equal. -/
theorem ext_get? {map other : KeyMap α} (h : ∀ k, map.get? k = other.get? k) : map = other := by
  have hnodup (map : KeyMap α) : map.entries.Nodup :=
    map.ordered.imp fun hlt heq => absurd (congrArg Prod.fst heq) (String.ne_of_lt hlt)
  have hmem : ∀ entry, entry ∈ map.entries ↔ entry ∈ other.entries := by
    intro ⟨k, value⟩
    rw [← get?_eq_some, ← get?_eq_some, h]
  have hperm := (List.perm_ext_iff_of_nodup (hnodup map) (hnodup other)).2 hmem
  have hentries : map.entries = other.entries := by
    apply hperm.eq_of_pairwise _ map.ordered other.ordered
    intro a b _ _ hab hba
    exact absurd hab (String.lt_asymm hba)
  cases map
  cases other
  cases hentries
  rfl

/-- What is put in and taken out again leaves what was under the other keys. -/
theorem erase_insert_self (map : KeyMap α) (key : String) (value : α) :
    (map.insert key value).erase key = map.erase key := by
  apply ext_get?
  intro k
  rw [get?_erase, get?_erase, get?_insert]
  split <;> rfl

theorem mem_keys_erase {map : KeyMap α} {key k : String} :
    k ∈ (map.erase key).keys ↔ k ∈ map.keys ∧ k ≠ key := by
  simp only [keys, erase, List.mem_map, List.mem_filter, bne_iff_ne, ne_eq]
  constructor
  · rintro ⟨entry, ⟨hmem, hne⟩, rfl⟩
    exact ⟨⟨entry, hmem, rfl⟩, hne⟩
  · rintro ⟨⟨entry, hmem, rfl⟩, hne⟩
    exact ⟨entry, ⟨hmem, hne⟩, rfl⟩

theorem mem_keys_foldl_erase {names : List String} {map : KeyMap α} {k : String} :
    k ∈ (names.foldl erase map).keys ↔ k ∈ map.keys ∧ k ∉ names := by
  induction names generalizing map with
  | nil => simp
  | cons name names ih =>
    rw [List.foldl_cons, ih, mem_keys_erase, List.mem_cons, not_or, and_assoc]

theorem mem_keys_foldl_insert {names : List String} {value : α} {map : KeyMap α} {k : String} :
    k ∈ (names.foldl (fun map name => map.insert name value) map).keys ↔
      k ∈ names ∨ k ∈ map.keys := by
  induction names generalizing map with
  | nil => simp
  | cons name names ih =>
    rw [List.foldl_cons, ih, mem_keys_insert, List.mem_cons]
    constructor
    · rintro (h | h | h)
      · exact .inl (.inr h)
      · exact .inl (.inl h)
      · exact .inr h
    · rintro ((h | h) | h)
      · exact .inr (.inl h)
      · exact .inl h
      · exact .inr (.inr h)

/-- What is put in under different keys is there afterwards, beside what was under the others. -/
theorem get?_foldl_insert {entries : List (String × α)} (hnodup : (entries.map (·.1)).Nodup)
    (map : KeyMap α) {k : String} {value : α} :
    (entries.foldl (fun map entry => map.insert entry.1 entry.2) map).get? k = some value ↔
      (k, value) ∈ entries ∨ k ∉ entries.map (·.1) ∧ map.get? k = some value := by
  induction entries generalizing map with
  | nil => simp
  | cons entry entries ih =>
    obtain ⟨key, v⟩ := entry
    rw [List.map_cons, List.nodup_cons] at hnodup
    obtain ⟨hfresh, hrest⟩ := hnodup
    rw [List.foldl_cons, ih hrest, get?_insert, List.mem_cons, Prod.mk.injEq, List.map_cons,
      List.mem_cons]
    by_cases hk : k = key
    · subst hk
      have hnone : (k, value) ∉ entries := by
        intro hmem
        exact hfresh (List.mem_map.2 ⟨_, hmem, rfl⟩)
      simp [hfresh, hnone, eq_comm]
    · simp [hk]

theorem mem_distinctKeys {names : List String} {k : String} : k ∈ distinctKeys names ↔ k ∈ names := by
  have hfold : ofList (names.map fun name => (name, ())) =
      names.foldl (fun map name => map.insert name ()) .empty := by
    rw [ofList, List.foldl_map]
  rw [distinctKeys, hfold, mem_keys_foldl_insert]
  simp [empty, keys]

end ContentFilter.KeyMap
