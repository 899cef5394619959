namespace Quizmaster.Keyed

section

variable {α : Type} (key : α → String)

/-- Puts an item before the first one of a greater key. -/
def place (item : α) : List α → List α
  | [] => [item]
  | first :: rest =>
    if key item < key first then item :: first :: rest else first :: place item rest

/-- The items that are not of a key. -/
def erase (k : String) (items : List α) : List α := items.filter fun item => key item != k

/-- Puts an item among others, instead of the one of its key. Among items in the order of their
    keys it goes to its place. -/
def insert (item : α) (items : List α) : List α := place key item (erase key (key item) items)

/-- Keys rise strictly, so that no key is there twice. -/
def Sorted (items : List α) : Prop := items.Pairwise fun item later => key item < key later

variable {key} {item other : α} {items : List α} {k : String}

/-- No item is lost or added but the one that is placed. -/
theorem place_perm (item : α) (items : List α) : (place key item items).Perm (item :: items) := by
  induction items with
  | nil => exact .refl _
  | cons first rest ih =>
    rw [place]
    split
    · exact .refl _
    · exact (ih.cons first).trans (.swap item first rest)

theorem mem_erase : other ∈ erase key k items ↔ other ∈ items ∧ key other ≠ k := by
  simp [erase]

/-- After an insertion there is the item, and there are those of other keys. -/
theorem mem_insert :
    other ∈ insert key item items ↔ other = item ∨ other ∈ items ∧ key other ≠ key item := by
  rw [insert, (place_perm item _).mem_iff, List.mem_cons, mem_erase]

/-- An item of a new key is placed in order. -/
theorem Sorted.place (h : Sorted key items) (hnew : ∀ other ∈ items, key other ≠ key item) :
    Sorted key (place key item items) := by
  induction items with
  | nil => exact List.pairwise_singleton _ _
  | cons first rest ih =>
    obtain ⟨hfirst, hrest⟩ := List.pairwise_cons.mp h
    obtain ⟨hne, hnew⟩ := List.forall_mem_cons.mp hnew
    rw [Keyed.place]
    split
    · next hlt =>
      exact .cons (List.forall_mem_cons.mpr ⟨hlt, fun other hother =>
        String.lt_trans hlt (hfirst other hother)⟩) h
    · next hge =>
      have hlt : key first < key item := Std.lt_of_le_of_ne (String.not_lt.mp hge) hne
      refine .cons (fun other hother => ?_) (ih hrest hnew)
      obtain rfl | hother := List.mem_cons.mp ((place_perm item rest).mem_iff.mp hother)
      · exact hlt
      · exact hfirst other hother

theorem Sorted.erase (h : Sorted key items) (k : String) : Sorted key (erase key k items) :=
  List.Pairwise.filter _ h

/-- An insertion keeps the order of keys, whether the key is new or not. -/
theorem Sorted.insert (h : Sorted key items) (item : α) : Sorted key (insert key item items) :=
  (h.erase _).place fun _ hother => (mem_erase.mp hother).2

/-- Where no key is there twice, none is after an insertion, whatever the order. -/
theorem nodup_keys_insert (h : (items.map key).Nodup) (item : α) :
    ((insert key item items).map key).Nodup := by
  rw [insert, ((place_perm item _).map key).nodup_iff, List.map_cons, List.nodup_cons]
  constructor
  · intro hmem
    obtain ⟨other, hother, hkey⟩ := List.mem_map.mp hmem
    exact (mem_erase.mp hother).2 hkey
  · exact (List.filter_sublist.map key).nodup h

/-- An item of a key that is greater than all others goes to the end. -/
theorem insert_of_forall_lt (h : ∀ other ∈ items, key other < key item) :
    insert key item items = items ++ [item] := by
  have herase : Keyed.erase key (key item) items = items := by
    refine List.filter_eq_self.mpr fun other hother => bne_iff_ne.mpr fun heq => ?_
    exact String.lt_irrefl _ (heq ▸ h other hother)
  rw [insert, herase]
  clear herase
  induction items with
  | nil => rfl
  | cons first rest ih =>
    obtain ⟨hfirst, hrest⟩ := List.forall_mem_cons.mp h
    rw [Keyed.place, if_neg (String.lt_asymm hfirst), ih hrest, List.cons_append]

end

section

variable {α : Type} {entries : List (String × α)} {key other : String}

theorem lookup_place (h : ∀ entry ∈ entries, entry.1 ≠ key) (value : α) (other : String) :
    (place Prod.fst (key, value) entries).lookup other = ((key, value) :: entries).lookup other := by
  induction entries with
  | nil => rfl
  | cons first rest ih =>
    obtain ⟨hfirst, hrest⟩ := List.forall_mem_cons.mp h
    rw [place]
    split
    · rfl
    · rw [List.lookup_cons, ih hrest, List.lookup_cons, List.lookup_cons, List.lookup_cons]
      by_cases hkey : other = key
      · have hne : (other == first.1) = false := beq_eq_false_iff_ne.mpr (hkey ▸ hfirst.symm)
        simp only [hne, beq_iff_eq.mpr hkey]
      · simp only [beq_eq_false_iff_ne.mpr hkey]

theorem lookup_erase_self (key : String) (entries : List (String × α)) :
    (erase Prod.fst key entries).lookup key = none :=
  List.lookup_eq_none_iff.mpr fun _ hentry => bne_iff_ne.mpr (mem_erase.mp hentry).2.symm

theorem lookup_erase_of_ne (h : other ≠ key) (entries : List (String × α)) :
    (erase Prod.fst key entries).lookup other = entries.lookup other := by
  induction entries with
  | nil => rfl
  | cons first rest ih =>
    rw [erase] at ih ⊢
    by_cases hfirst : first.1 = key
    · have hne : (other == first.1) = false := beq_eq_false_iff_ne.mpr (hfirst ▸ h)
      rw [List.filter_cons_of_neg (by simp [hfirst]), ih, List.lookup_cons, hne]
    · rw [List.filter_cons_of_pos (by simp [hfirst]), List.lookup_cons, List.lookup_cons, ih]

/-- What is put under a key is found there, and nothing else is found elsewhere. -/
theorem lookup_insert (key : String) (value : α) (entries : List (String × α)) (other : String) :
    (insert Prod.fst (key, value) entries).lookup other =
      ((key, value) :: entries).lookup other := by
  rw [insert, lookup_place fun _ hentry => (mem_erase.mp hentry).2, List.lookup_cons,
    List.lookup_cons]
  by_cases hkey : other = key
  · simp only [beq_iff_eq.mpr hkey]
  · simp only [beq_eq_false_iff_ne.mpr hkey, lookup_erase_of_ne hkey]

end

end Quizmaster.Keyed
