import ContentFilter.Json.Decode
import ContentFilter.Proofs.Data.Traverse
import ContentFilter.Proofs.Json.Scanner

/-! Records, lists and values that may be absent read back from their written form. -/

namespace ContentFilter

namespace Json

theorem arePlain_iff {items : List Json} :
    arePlain items = true ↔ ∀ item ∈ items, isPlain item = true := by
  induction items with
  | nil => simp [arePlain]
  | cons item items ih => rw [arePlain, Bool.and_eq_true, ih, List.forall_mem_cons]

theorem arePlainFields_iff {fields : List (String × Json)} :
    arePlainFields fields = true ↔ ∀ field ∈ fields, isPlain field.2 = true := by
  induction fields with
  | nil => simp [arePlainFields]
  | cons field fields ih => rw [arePlainFields, Bool.and_eq_true, ih, List.forall_mem_cons]

theorem isPlain_strings (items : List String) : isPlain (strings items) = true := by
  rw [strings, isPlain, arePlain_iff]
  intro item hitem
  obtain ⟨text, -, rfl⟩ := List.mem_map.1 hitem
  rfl

theorem isPlain_optional {α : Type} {write : α → Json} (h : ∀ a, isPlain (write a) = true)
    (value : Option α) : isPlain (optional write value) = true := by
  cases value with
  | none => rfl
  | some a => exact h a

namespace Decode

theorem unique?_of_nodup {fields : List (String × Json)} (h : (fields.map (·.1)).Nodup)
    {field : String × Json} (hfield : field ∈ fields) :
    unique? fields field.1 = some (some field.2) := by
  have hfilter : fields.filter (·.1 == field.1) = [field] := by
    induction fields with
    | nil => cases hfield
    | cons other fields ih =>
      rw [List.map_cons, List.nodup_cons] at h
      rcases List.mem_cons.1 hfield with rfl | hfield
      · have hnone : fields.filter (·.1 == field.1) = [] := by
          rw [List.filter_eq_nil_iff]
          intro other hother heq
          rw [beq_iff_eq] at heq
          exact h.1 (heq ▸ List.mem_map_of_mem hother)
        rw [List.filter_cons_of_pos (by simp), hnone]
      · have hne : other.1 ≠ field.1 := by
          intro heq
          exact h.1 (heq ▸ List.mem_map_of_mem hfield)
        rw [List.filter_cons_of_neg (by simpa using hne), ih h.2 hfield]
  rw [unique?, hfilter]

/-- A record with each field once gives the values under their names. -/
theorem record_object {fields : List (String × Json)} (h : (fields.map (·.1)).Nodup) :
    record (fields.map (·.1)) (.object fields) =
      some ⟨fields.map fun field => (field.1, some field.2), false⟩ := by
  have hmap : (fields.map (·.1)).mapM (fun name => (unique? fields name).map (name, ·)) =
      some (fields.map fun field => (field.1, some field.2)) := by
    refine List.mapM_map.trans (mapM_eq_pure_map fun field hfield => ?_)
    rw [Function.comp_apply, unique?_of_nodup h hfield]
    rfl
  rw [record, hmap]
  rfl

theorem strings_strings (items : List String) : Decode.strings (Json.strings items) = some items := by
  have hmap : (items.map Json.string).mapM Decode.string = some (items.map id) :=
    List.mapM_map.trans (mapM_eq_pure_map fun _ _ => rfl)
  rwa [List.map_id] at hmap

theorem list_map {α : Type} {decode : Decoder α} {write : α → Json} {as : List α}
    (h : ∀ a ∈ as, decode (write a) = some a) : list decode (.array (as.map write)) = some as := by
  have hmap : (as.map write).mapM decode = some (as.map id) :=
    List.mapM_map.trans (mapM_eq_pure_map h)
  rwa [List.map_id] at hmap

theorem exists_of_mem_list {α : Type} {decode : Decoder α} {json : Json} {as : List α} {a : α}
    (h : list decode json = some as) (ha : a ∈ as) : ∃ item, decode item = some a := by
  cases json with
  | array items =>
    obtain ⟨item, -, hitem⟩ := some_of_mem_mapM h ha
    exact ⟨item, hitem⟩
  | null | bool | integer | decimal | string | unpaired | object => cases h

theorem natBelow_nat {bound n : Nat} (h : n < bound) : natBelow bound (.nat n) = some n := by
  have hn : 0 ≤ (n : Int) ∧ (n : Int) < bound := by omega
  rw [nat, natBelow, if_pos hn, Int.toNat_natCast]

theorem nullable_optional {α : Type} {decode : Decoder α} {write : α → Json}
    (hnull : ∀ a, write a ≠ .null) {value : Option α}
    (h : ∀ a, value = some a → decode (write a) = some a) :
    nullable decode (optional write value) = some value := by
  cases value with
  | none => rfl
  | some a =>
    have hread := h a rfl
    rw [optional]
    cases hjson : write a with
    | null => exact absurd hjson (hnull a)
    | bool | integer | decimal | string | unpaired | array | object =>
      rw [nullable, ← hjson, hread]
      · rfl
      · nofun

end Decode

end Json

end ContentFilter
