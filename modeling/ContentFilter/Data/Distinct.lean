import Std.Data.HashMap
import Std.Data.HashSet

/-!
First occurrences by key, and buckets of values under text keys.
-/

namespace ContentFilter

section

variable {α β : Type} [BEq β] [Hashable β]

/-- The members whose key is neither in `seen` nor that of an earlier member. -/
def distinctFrom (key : α → β) (seen : Std.HashSet β) : List α → List α
  | [] => []
  | a :: as =>
    if seen.contains (key a) then distinctFrom key seen as
    else a :: distinctFrom key (seen.insert (key a)) as

def distinctBy (key : α → β) (as : List α) : List α := distinctFrom key ∅ as

end

def distinct {α : Type} [BEq α] [Hashable α] (as : List α) : List α := distinctBy id as

/-- Values in the order of their arrival under each key. -/
structure Buckets (α : Type) where
  table : Std.HashMap String (Array α) := ∅

namespace Buckets

variable {α : Type}

def get (buckets : Buckets α) (key : String) : List α := (buckets.table.getD key #[]).toList

def add (buckets : Buckets α) (key : String) (value : α) : Buckets α :=
  ⟨buckets.table.insert key ((buckets.table.getD key #[]).push value)⟩

@[simp] theorem get_empty (key : String) : (⟨∅⟩ : Buckets α).get key = [] := by
  simp [get]

@[simp] theorem get_add (buckets : Buckets α) (key other : String) (value : α) :
    (buckets.add key value).get other =
      if key = other then buckets.get other ++ [value] else buckets.get other := by
  simp only [get, add, Std.HashMap.getD_insert, beq_iff_eq]
  split
  · next h => subst h; simp
  · rfl

end Buckets

end ContentFilter
