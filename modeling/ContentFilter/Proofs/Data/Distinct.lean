import ContentFilter.Data.Distinct
import Mathlib.Data.List.Nodup

/-! First occurrences by key have pairwise different keys and lose no key. -/

namespace ContentFilter

variable {α β : Type} [BEq β] [Hashable β]

theorem distinctFrom_sublist (key : α → β) (seen : Std.HashSet β) (as : List α) :
    (distinctFrom key seen as).Sublist as := by
  induction as generalizing seen with
  | nil => exact .slnil
  | cons a as ih =>
    rw [distinctFrom]
    split
    · exact (ih seen).cons a
    · exact (ih _).cons_cons a

theorem distinctBy_sublist (key : α → β) (as : List α) : (distinctBy key as).Sublist as :=
  distinctFrom_sublist key ∅ as

variable [LawfulBEq β] [LawfulHashable β]

theorem distinctFrom_fresh (key : α → β) (seen : Std.HashSet β) (as : List α) :
    (∀ a ∈ distinctFrom key seen as, key a ∉ seen) ∧
      ((distinctFrom key seen as).map key).Nodup := by
  induction as generalizing seen with
  | nil => simp [distinctFrom]
  | cons a as ih =>
    rw [distinctFrom]
    split
    · exact ih seen
    · next hnew =>
      obtain ⟨hfresh, hnodup⟩ := ih (seen.insert (key a))
      constructor
      · intro b hb
        rcases List.mem_cons.1 hb with rfl | hb
        · simpa using hnew
        · intro hmem
          exact hfresh b hb (by simp [hmem])
      · rw [List.map_cons, List.nodup_cons]
        refine ⟨fun hmem => ?_, hnodup⟩
        obtain ⟨b, hb, hkey⟩ := List.mem_map.1 hmem
        exact hfresh b hb (by simp [hkey])

theorem distinctBy_keys_nodup (key : α → β) (as : List α) :
    ((distinctBy key as).map key).Nodup :=
  (distinctFrom_fresh key ∅ as).2

theorem distinctFrom_eq_self {key : α → β} {seen : Std.HashSet β} {as : List α}
    (hseen : ∀ a ∈ as, key a ∉ seen) (hnodup : (as.map key).Nodup) :
    distinctFrom key seen as = as := by
  induction as generalizing seen with
  | nil => rfl
  | cons a as ih =>
    rw [List.map_cons, List.nodup_cons] at hnodup
    have hnew : ¬ seen.contains (key a) = true := hseen a List.mem_cons_self
    rw [distinctFrom, if_neg hnew, ih (fun b hb => ?_) hnodup.2]
    have hne : key a ≠ key b := fun heq => hnodup.1 (heq ▸ List.mem_map_of_mem hb)
    simpa [Std.HashSet.mem_insert, hne] using hseen b (List.mem_cons_of_mem a hb)

theorem distinctBy_eq_self {key : α → β} {as : List α} (h : (as.map key).Nodup) :
    distinctBy key as = as :=
  distinctFrom_eq_self (by simp) h

/-- Among first occurrences the first one with a key is the first one of all. -/
theorem find?_distinctFrom (key : α → β) (k : β) (seen : Std.HashSet β) (as : List α)
    (hk : k ∉ seen) : (distinctFrom key seen as).find? (key · == k) = as.find? (key · == k) := by
  induction as generalizing seen with
  | nil => rfl
  | cons a as ih =>
    rw [distinctFrom]
    split
    · next hseen =>
      have hne : (key a == k) = false := by
        apply beq_eq_false_iff_ne.2
        rintro rfl
        exact hk hseen
      rw [List.find?_cons, hne]
      exact ih seen hk
    · rw [List.find?_cons, List.find?_cons]
      cases hkey : key a == k with
      | true => rfl
      | false =>
        apply ih
        simpa [Std.HashSet.mem_insert, hkey] using hk

theorem find?_distinctBy (key : α → β) (k : β) (as : List α) :
    (distinctBy key as).find? (key · == k) = as.find? (key · == k) :=
  find?_distinctFrom key k ∅ as (by simp)

/-- Of members with a key each of their own none is dropped. -/
theorem mem_distinctBy {key : α → β} {as : List α} {a : α}
    (hkey : ∀ a ∈ as, ∀ b ∈ as, key a = key b → a = b) : a ∈ distinctBy key as ↔ a ∈ as := by
  refine ⟨fun h => (distinctBy_sublist key as).subset h, fun h => ?_⟩
  have hfind := find?_distinctBy key (key a) as
  cases hfirst : as.find? (key · == key a) with
  | none => exact absurd (List.find?_eq_none.1 hfirst a h) (by simp)
  | some b =>
    rw [hfirst] at hfind
    have hb := List.mem_of_find?_eq_some hfirst
    have hsame : (key b == key a) = true := by simpa using List.find?_some hfirst
    have heq : b = a := hkey b hb a h (beq_iff_eq.1 hsame)
    exact heq ▸ List.mem_of_find?_eq_some hfind

/-- A key that was seen is as good as none of the members having it. -/
theorem distinctFrom_of_mem_iff {key : α → β} {k : β} {seen all : Std.HashSet β}
    (h : ∀ other, other ∈ all ↔ other = k ∨ other ∈ seen) (as : List α) :
    distinctFrom key all as = distinctFrom key seen (as.filter (key · != k)) := by
  induction as generalizing seen all with
  | nil => rfl
  | cons a as ih =>
    by_cases hk : key a = k
    · have hall : all.contains (key a) = true := (h (key a)).2 (.inl hk)
      rw [distinctFrom, if_pos hall, List.filter_cons_of_neg (by simp [hk]), ih h]
    · have hsame : all.contains (key a) = seen.contains (key a) := by
        rw [Bool.eq_iff_iff]
        exact (h (key a)).trans (or_iff_right hk)
      rw [List.filter_cons_of_pos (by simpa using hk), distinctFrom, distinctFrom, hsame]
      split
      · exact ih h
      · refine congrArg _ (ih fun other => ?_)
        rw [Std.HashSet.mem_insert, Std.HashSet.mem_insert, h]
        exact or_left_comm

/-- Of members that come after others those count whose key is new. -/
theorem distinctBy_append (key : α → β) (as bs : List α) :
    distinctBy key (as ++ bs) =
      distinctBy key as ++ distinctBy key (bs.filter fun b => !as.any (key · == key b)) := by
  have hfrom : ∀ (as : List α) (seen : Std.HashSet β), distinctFrom key seen (as ++ bs) =
      distinctFrom key seen as ++
        distinctFrom key seen (bs.filter fun b => !as.any (key · == key b)) := by
    intro as
    induction as with
    | nil =>
      intro seen
      simp [distinctFrom]
    | cons a as ih =>
      intro seen
      have hsplit : (bs.filter fun b => !(a :: as).any (key · == key b)) =
          (bs.filter fun b => !as.any (key · == key b)).filter (key · != key a) := by
        rw [List.filter_filter]
        apply List.filter_congr
        intro b _
        rw [List.any_cons, Bool.not_or, bne, BEq.comm]
      rw [List.cons_append, distinctFrom, distinctFrom, hsplit]
      split
      · next hseen =>
        rw [ih, ← distinctFrom_of_mem_iff (fun other => ?_)]
        refine (or_iff_right_of_imp ?_).symm
        rintro rfl
        exact hseen
      · rw [ih, List.cons_append, ← distinctFrom_of_mem_iff (fun other => ?_)]
        rw [Std.HashSet.mem_insert, beq_iff_eq]
        exact or_congr_left eq_comm
  exact hfrom as ∅

theorem filter_flatMap_replicate {α : Type} (n : α → Nat) (p : α → Bool) (as : List α) :
    (as.flatMap fun a => List.replicate (n a) a).filter p =
      (as.filter p).flatMap fun a => List.replicate (n a) a := by
  induction as with
  | nil => rfl
  | cons a as ih =>
    rw [List.flatMap_cons, List.filter_append, ih, List.filter_replicate, List.filter_cons]
    split <;> rfl

/-- Of members that stand several times in a row one each is left, if their keys are different. -/
theorem distinctBy_flatMap_replicate {key : α → β} (n : α → Nat) {as : List α}
    (hnodup : (as.map key).Nodup) :
    distinctBy key (as.flatMap fun a => List.replicate (n a) a) = as.filter (0 < n ·) := by
  induction as with
  | nil => rfl
  | cons a as ih =>
    rw [List.map_cons, List.nodup_cons] at hnodup
    obtain ⟨hfresh, hrest⟩ := hnodup
    rw [List.flatMap_cons]
    cases hn : n a with
    | zero => simp [hn, ih hrest]
    | succ m =>
      have hrepeat : distinctBy key (List.replicate (m + 1) a) = [a] := by
        rw [List.replicate_succ, ← List.singleton_append, distinctBy_append]
        simp [distinctBy, distinctFrom]
      have hothers : ((as.flatMap fun b => List.replicate (n b) b).filter fun b =>
          !(List.replicate (m + 1) a).any (key · == key b)) =
          as.flatMap fun b => List.replicate (n b) b := by
        apply List.filter_eq_self.2
        intro b hb
        obtain ⟨c, hc, hb⟩ := List.mem_flatMap.1 hb
        obtain rfl := List.eq_of_mem_replicate hb
        have hne : key a ≠ key b := fun h => hfresh (h ▸ List.mem_map_of_mem hc)
        simpa using hne
      rw [distinctBy_append, hrepeat, hothers, ih hrest, List.filter_cons_of_pos (by simp [hn])]
      rfl

theorem distinctFrom_filter_eq {key : α → β} {p : α → Bool} {all : List α}
    (hp : ∀ a ∈ all, ∀ b ∈ all, key a = key b → p a = p b) (before : List α) {as : List α}
    {seen : Std.HashSet β} (hall : all = before ++ as)
    (hseen : ∀ k, k ∈ seen ↔ ∃ b ∈ before, p b = true ∧ key b = k) :
    distinctFrom key seen (as.filter p) = ((as.zipIdx before.length).filter fun (a, i) =>
      p a && !(all.take i).any fun b => key b == key a).map (·.1) := by
  induction as generalizing before seen with
  | nil => rfl
  | cons a as ih =>
    have ha : a ∈ all := by rw [hall]; simp
    have hbefore : ∀ b ∈ before, b ∈ all := fun b hb => hall ▸ List.mem_append_left _ hb
    have htake : all.take before.length = before := by rw [hall, List.take_left]
    have hall' : all = (before ++ [a]) ++ as := by rw [hall, List.append_assoc]; rfl
    have hrest (found : Std.HashSet β) (hfound : ∀ k, k ∈ found ↔
        ∃ b ∈ before ++ [a], p b = true ∧ key b = k) := ih (before ++ [a]) hall' hfound
    rw [List.zipIdx_cons]
    rw [List.length_append] at hrest
    cases hpa : p a with
    | false =>
      rw [List.filter_cons_of_neg (by simp [hpa]), List.filter_cons_of_neg (by simp [hpa])]
      refine hrest seen fun k => ?_
      rw [hseen k]
      simp [hpa]
    | true =>
      have hiff : key a ∈ seen ↔ (all.take before.length).any (fun b => key b == key a) = true := by
        rw [hseen, htake, List.any_eq_true]
        refine exists_congr fun b => and_congr_right fun hb => ?_
        rw [beq_iff_eq]
        exact ⟨fun h => h.2, fun h => ⟨(hp b (hbefore b hb) a ha h).trans hpa, h⟩⟩
      rw [List.filter_cons_of_pos hpa, distinctFrom]
      by_cases hmem : seen.contains (key a) = true
      · rw [if_pos hmem, List.filter_cons_of_neg (by simp [hiff.1 hmem])]
        refine hrest seen fun k => ?_
        rw [hseen k]
        have hfirst := (hseen (key a)).1 hmem
        grind
      · have hnew : (all.take before.length).any (fun b => key b == key a) = false := by
          rw [← Bool.not_eq_true]
          exact mt hiff.2 hmem
        rw [if_neg hmem, List.filter_cons_of_pos (by simp [hpa, hnew]), List.map_cons]
        refine congrArg _ (hrest _ fun k => ?_)
        rw [Std.HashSet.mem_insert, hseen k, beq_iff_eq]
        grind

/-- The first occurrences among the members that pass are the members that pass and have no earlier
one with their key. -/
theorem distinctBy_filter_eq {key : α → β} {p : α → Bool} {as : List α}
    (hp : ∀ a ∈ as, ∀ b ∈ as, key a = key b → p a = true → p b = true) :
    distinctBy key (as.filter p) =
      (as.zipIdx.filter fun (a, i) => p a && !(as.take i).any fun b => key b == key a).map (·.1) :=
  distinctFrom_filter_eq
    (fun a ha b hb h => Bool.eq_iff_iff.2 ⟨hp a ha b hb h, hp b hb a ha h.symm⟩) [] rfl (by simp)

/-- Members can be left out before as well as after, if with each of them go all that have its key. -/
theorem distinctBy_filter {key : α → β} {p : α → Bool} {as : List α}
    (hp : ∀ a ∈ as, ∀ b ∈ as, key a = key b → p a = true → p b = true) :
    distinctBy key (as.filter p) = (distinctBy key as).filter p := by
  have hall := @distinctBy_filter_eq _ _ _ _ _ _ key (fun _ => true) as (fun _ _ _ _ _ h => h)
  simp only [List.filter_true, Bool.true_and] at hall
  rw [distinctBy_filter_eq hp, hall, List.filter_map, List.filter_filter]
  rfl

theorem distinct_filter (as : List β) (keep : β → Bool) :
    distinct (as.filter keep) = (distinct as).filter keep :=
  distinctBy_filter fun _ _ _ _ h hkept => congrArg keep h ▸ hkept

theorem mem_distinct [BEq α] [Hashable α] [LawfulBEq α] {as : List α} {a : α} :
    a ∈ distinct as ↔ a ∈ as :=
  mem_distinctBy fun _ _ _ _ h => h

end ContentFilter
