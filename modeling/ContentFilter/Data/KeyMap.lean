/-!
Maps from text keys, kept in the order of the keys.
-/

namespace ContentFilter

structure KeyMap (α : Type) where
  entries : List (String × α)
  ordered : entries.Pairwise fun a b => a.1 < b.1
  deriving Repr

namespace KeyMap

variable {α : Type}

instance [DecidableEq α] : DecidableEq (KeyMap α) := fun a b =>
  if h : a.entries = b.entries then
    isTrue (by cases a; cases b; simp_all)
  else isFalse fun hab => h (hab ▸ rfl)

def empty : KeyMap α := ⟨[], .nil⟩

instance : Inhabited (KeyMap α) := ⟨empty⟩

def insertEntry (key : String) (value : α) : List (String × α) → List (String × α)
  | [] => [(key, value)]
  | (k, v) :: rest =>
    if key < k then (key, value) :: (k, v) :: rest
    else if k < key then (k, v) :: insertEntry key value rest
    else (key, value) :: rest

theorem mem_insertEntry {key : String} {value : α} {entries : List (String × α)} {e : String × α}
    (h : e ∈ insertEntry key value entries) : e = (key, value) ∨ e ∈ entries := by
  induction entries with
  | nil => simpa [insertEntry] using h
  | cons head rest ih =>
    obtain ⟨k, v⟩ := head
    simp only [insertEntry] at h
    split at h
    · simpa using h
    · split at h
      · rcases List.mem_cons.1 h with h | h
        · simp [h]
        · rcases ih h with h | h <;> simp [h]
      · rcases List.mem_cons.1 h with h | h <;> simp [h]

theorem ordered_insertEntry {key : String} {value : α} {entries : List (String × α)}
    (h : entries.Pairwise fun a b => a.1 < b.1) :
    (insertEntry key value entries).Pairwise fun a b => a.1 < b.1 := by
  induction entries with
  | nil => simp [insertEntry]
  | cons head rest ih =>
    obtain ⟨k, v⟩ := head
    obtain ⟨hhead, hrest⟩ := List.pairwise_cons.1 h
    simp only [insertEntry]
    split
    · next hlt =>
      refine List.pairwise_cons.2 ⟨fun e he => ?_, h⟩
      rcases List.mem_cons.1 he with rfl | he
      · exact hlt
      · exact String.lt_trans hlt (hhead e he)
    · next hnot =>
      split
      · next hlt =>
        refine List.pairwise_cons.2 ⟨fun e he => ?_, ih hrest⟩
        rcases mem_insertEntry he with rfl | he
        · exact hlt
        · exact hhead e he
      · next hnot' =>
        have hk : k = key := String.le_antisymm hnot hnot'
        subst hk
        exact List.pairwise_cons.2 ⟨hhead, hrest⟩

def insert (map : KeyMap α) (key : String) (value : α) : KeyMap α :=
  ⟨insertEntry key value map.entries, ordered_insertEntry map.ordered⟩

def erase (map : KeyMap α) (key : String) : KeyMap α :=
  ⟨map.entries.filter (·.1 != key), map.ordered.filter _⟩

def get? (map : KeyMap α) (key : String) : Option α := map.entries.lookup key

def keys (map : KeyMap α) : List String := map.entries.map (·.1)

def isEmpty (map : KeyMap α) : Bool := map.entries.isEmpty

/-- The map of some entries; of two with one key the later one counts. -/
def ofList (entries : List (String × α)) : KeyMap α :=
  entries.foldl (fun map (key, value) => map.insert key value) empty

/-- Some texts in order and each once. -/
def distinctKeys (keys : List String) : List String := (ofList (keys.map fun key => (key, ()))).keys

end KeyMap

end ContentFilter
