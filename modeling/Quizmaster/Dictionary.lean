import Quizmaster.Keyed

namespace Quizmaster

/-- Values under keys, each key once and in the order of keys. -/
@[ext] structure Dictionary (α : Type) where
  toList : List (String × α)
  sorted : Keyed.Sorted Prod.fst toList
deriving DecidableEq

namespace Dictionary

variable {α : Type}

instance : EmptyCollection (Dictionary α) := ⟨⟨[], .nil⟩⟩

def get? (d : Dictionary α) (key : String) : Option α := d.toList.lookup key

/-- Puts a value under a key, in place of the one that was there. -/
def insert (d : Dictionary α) (key : String) (value : α) : Dictionary α :=
  ⟨Keyed.insert Prod.fst (key, value) d.toList, d.sorted.insert _⟩

def erase (d : Dictionary α) (key : String) : Dictionary α :=
  ⟨Keyed.erase Prod.fst key d.toList, d.sorted.erase key⟩

/-- Counts a key: one more of it, or the first. -/
def count (d : Dictionary Nat) (key : String) : Dictionary Nat :=
  d.insert key ((d.get? key).getD 0 + 1)

/-- Of several values under one key the last one stays. -/
def ofList (pairs : List (String × α)) : Dictionary α :=
  pairs.foldl (fun d (key, value) => d.insert key value) ∅

@[simp] theorem toList_insert (d : Dictionary α) (key : String) (value : α) :
    (d.insert key value).toList = Keyed.insert Prod.fst (key, value) d.toList := rfl

@[simp] theorem get?_insert_self (d : Dictionary α) (key : String) (value : α) :
    (d.insert key value).get? key = some value := by
  rw [get?, insert, Keyed.lookup_insert, List.lookup_cons_self]

theorem get?_insert_of_ne (d : Dictionary α) {key other : String} (value : α)
    (hne : other ≠ key) : (d.insert key value).get? other = d.get? other := by
  rw [get?, insert, Keyed.lookup_insert, List.lookup_cons, beq_eq_false_iff_ne.mpr hne, get?]

@[simp] theorem get?_erase_self (d : Dictionary α) (key : String) :
    (d.erase key).get? key = none :=
  Keyed.lookup_erase_self key d.toList

theorem get?_erase_of_ne (d : Dictionary α) {key other : String} (hne : other ≠ key) :
    (d.erase key).get? other = d.get? other :=
  Keyed.lookup_erase_of_ne hne d.toList

/-- There is nothing to erase under a key that has no value. -/
theorem erase_of_get?_eq_none {d : Dictionary α} {key : String} (h : d.get? key = none) :
    d.erase key = d := by
  have hsame : Keyed.erase Prod.fst key d.toList = d.toList := by
    refine List.filter_eq_self.mpr fun entry hentry => bne_iff_ne.mpr ?_
    exact (bne_iff_ne.mp (List.lookup_eq_none_iff.mp h entry hentry)).symm
  simp only [erase, hsame]

end Dictionary

end Quizmaster
