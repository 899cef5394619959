import Mathlib.Algebra.GroupWithZero.Nat
import Mathlib.Data.List.Induction
import Mathlib.Data.List.Nodup
import Mathlib.Data.String.Basic
import Quizmaster.Dictionary

namespace Quizmaster

namespace Keyed

section

variable {α : Type} {key : α → String} {items others : List α}

theorem Sorted.nodup_keys (h : Sorted key items) : (items.map key).Nodup :=
  List.pairwise_map.mpr (h.imp ne_of_lt)

/-- Sorted lists of the same items are the same. -/
theorem Sorted.eq_of_mem_iff (h : Sorted key items) (h' : Sorted key others)
    (hsame : ∀ item, item ∈ items ↔ item ∈ others) : items = others := by
  have hnodup {items : List α} (h : Sorted key items) : items.Nodup := .of_map key h.nodup_keys
  have hperm : items.Perm others :=
    (List.perm_ext_iff_of_nodup (hnodup h) (hnodup h')).mpr hsame
  exact hperm.eq_of_pairwise (fun _ _ _ _ hlt hgt => absurd hgt (lt_asymm hlt)) h h'

end

section

variable {α : Type} {entries others : List (String × α)} {key : String} {value : α}

theorem lookup_of_not_mem_keys (h : key ∉ entries.map Prod.fst) : entries.lookup key = none := by
  rw [List.lookup_eq_none_iff]
  intro entry hentry
  refine bne_iff_ne.mpr fun heq => h ?_
  exact List.mem_map.mpr ⟨entry, hentry, heq.symm⟩

/-- Where no key is there twice, a value is found under a key exactly if it is there. -/
theorem lookup_eq_some_iff_mem (h : (entries.map Prod.fst).Nodup) :
    entries.lookup key = some value ↔ (key, value) ∈ entries := by
  induction entries with
  | nil => simp
  | cons entry rest ih =>
    obtain ⟨k, v⟩ := entry
    rw [List.map_cons, List.nodup_cons] at h
    obtain ⟨hnew, hrest⟩ := h
    rw [List.lookup_cons, List.mem_cons, ← ih hrest]
    by_cases hkey : key = k
    · subst hkey
      simp [lookup_of_not_mem_keys hnew, eq_comm]
    · simp [beq_eq_false_iff_ne.mpr hkey, hkey]

/-- The order of entries does not matter to who looks for a key that is not there twice. -/
theorem lookup_eq_of_perm (h : (entries.map Prod.fst).Nodup) (hperm : entries.Perm others)
    (key : String) : entries.lookup key = others.lookup key := by
  refine Option.ext fun value => ?_
  rw [lookup_eq_some_iff_mem h, lookup_eq_some_iff_mem ((hperm.map _).nodup_iff.mp h),
    hperm.mem_iff]

/-- An entry and those of other keys are all there are. -/
theorem perm_erase (h : (entries.map Prod.fst).Nodup) (hentry : (key, value) ∈ entries) :
    entries.Perm ((key, value) :: erase Prod.fst key entries) := by
  have hnodup : entries.Nodup := .of_map _ h
  refine (List.perm_ext_iff_of_nodup hnodup ?_).mpr fun entry => ?_
  · exact List.nodup_cons.mpr ⟨fun hmem => (mem_erase.mp hmem).2 rfl, hnodup.filter _⟩
  · rw [List.mem_cons, mem_erase]
    constructor
    · intro hmem
      by_cases hkey : entry.1 = key
      · have hvalue := (lookup_eq_some_iff_mem h).mpr hentry
        obtain ⟨k, v⟩ := entry
        obtain rfl : k = key := hkey
        rw [(lookup_eq_some_iff_mem h).mpr hmem] at hvalue
        exact .inl (by rw [Option.some.inj hvalue])
      · exact .inr ⟨hmem, hkey⟩
    · rintro (rfl | ⟨hmem, -⟩)
      · exact hentry
      · exact hmem

end

end Keyed

namespace Dictionary

variable {α : Type} {d : Dictionary α} {key : String} {value : α}

theorem mem_toList_iff : (key, value) ∈ d.toList ↔ d.get? key = some value :=
  (Keyed.lookup_eq_some_iff_mem d.sorted.nodup_keys).symm

theorem ofList_concat (pairs : List (String × α)) (key : String) (value : α) :
    ofList (pairs ++ [(key, value)]) = (ofList pairs).insert key value := by
  simp [ofList]

/-- Of several values under one key the last one is found. -/
theorem get?_ofList (pairs : List (String × α)) (key : String) :
    (ofList pairs).get? key = pairs.reverse.lookup key := by
  induction pairs using List.reverseRecOn with
  | nil => rfl
  | append_singleton pairs pair ih =>
    obtain ⟨k, v⟩ := pair
    rw [ofList_concat, List.reverse_concat, List.lookup_cons]
    cases hkey : key == k with
    | true =>
      rw [eq_of_beq hkey]
      exact get?_insert_self _ k v
    | false => rw [get?_insert_of_ne _ v (beq_eq_false_iff_ne.mp hkey), ih]

/-- Of different keys each has its value. -/
theorem get?_ofList_of_nodup {pairs : List (String × α)} (h : (pairs.map Prod.fst).Nodup)
    (key : String) : (ofList pairs).get? key = pairs.lookup key := by
  rw [get?_ofList, Keyed.lookup_eq_of_perm h (List.reverse_perm pairs).symm]

/-- Entries that are in order come out of their own list unchanged. -/
theorem toList_ofList {pairs : List (String × α)} (h : Keyed.Sorted Prod.fst pairs) :
    (ofList pairs).toList = pairs := by
  induction pairs using List.reverseRecOn with
  | nil => rfl
  | append_singleton pairs pair ih =>
    obtain ⟨hbefore, -, hlast⟩ := List.pairwise_append.mp h
    rw [ofList_concat, toList_insert, ih hbefore]
    exact Keyed.insert_of_forall_lt fun earlier hearlier =>
      hlast earlier hearlier pair (List.mem_singleton_self _)

theorem ofList_toList (d : Dictionary α) : ofList d.toList = d :=
  Dictionary.ext (toList_ofList d.sorted)

/-- Counting adds one to the sum of all counts. -/
theorem sum_count (d : Dictionary Nat) (key : String) :
    ((d.count key).toList.map Prod.snd).sum = (d.toList.map Prod.snd).sum + 1 := by
  let others := Keyed.erase Prod.fst key d.toList
  have hcounted : ((d.count key).toList.map Prod.snd).sum =
      (d.get? key).getD 0 + 1 + (others.map Prod.snd).sum :=
    ((Keyed.place_perm _ others).map Prod.snd).sum_nat
  have hbefore : (d.toList.map Prod.snd).sum =
      (d.get? key).getD 0 + (others.map Prod.snd).sum := by
    cases hcount : d.get? key with
    | none =>
      have hsame : others = d.toList := congrArg toList (erase_of_get?_eq_none hcount)
      rw [hsame, Option.getD_none, Nat.zero_add]
    | some n =>
      have hentry : (key, n) ∈ d.toList := mem_toList_iff.mpr hcount
      exact ((Keyed.perm_erase d.sorted.nodup_keys hentry).map Prod.snd).sum_nat
  rw [hcounted, hbefore]
  omega

end Dictionary

end Quizmaster
