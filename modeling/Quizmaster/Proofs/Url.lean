import Mathlib.Data.List.DropRight
import Quizmaster.Url

namespace Quizmaster.Url

variable {stem tail : List Char}

theorem isRemoved_of_isControlOrSpace {c : Char} (h : isControlOrSpace c = false) :
    isRemoved c = false := by
  rw [Bool.eq_false_iff] at h ⊢
  intro hremoved
  simp only [isRemoved, Bool.or_eq_true, beq_iff_eq] at hremoved
  obtain (rfl | rfl) | rfl := hremoved <;> exact h rfl

/-- Nothing is removed from a printable end. -/
theorem clean_append (hne : tail ≠ []) (htail : ∀ c ∈ tail, isControlOrSpace c = false)
    (base : List Char) :
    clean (base ++ tail) =
      (base.dropWhile isControlOrSpace).filter (!isRemoved ·) ++ tail := by
  have hstart : (base ++ tail).dropWhile isControlOrSpace =
      base.dropWhile isControlOrSpace ++ tail := by
    rw [List.dropWhile_append]
    split
    · next hempty =>
      have hfirst : tail.dropWhile isControlOrSpace = tail := by
        rw [List.dropWhile_eq_self_iff]
        intro hpos
        exact Bool.eq_false_iff.mp (htail _ (List.getElem_mem hpos))
      rw [hfirst, List.isEmpty_iff.mp hempty, List.nil_append]
    · rfl
  have hend (start : List Char) :
      (start ++ tail).rdropWhile isControlOrSpace = start ++ tail := by
    rw [List.rdropWhile_eq_self_iff]
    intro hlast
    rw [List.getLast_append_of_ne_nil _ hne]
    exact Bool.eq_false_iff.mp (htail _ (List.getLast_mem hne))
  have hkept : tail.filter (!isRemoved ·) = tail := by
    rw [List.filter_eq_self]
    intro c hc
    rw [isRemoved_of_isControlOrSpace (htail c hc), Bool.not_false]
  change (((base ++ tail).dropWhile isControlOrSpace).rdropWhile isControlOrSpace).filter _ = _
  rw [hstart, hend, List.filter_append, hkept]

/-- The scheme, if it is this one, and what follows it. -/
def after? (marked : List Char) (cs : List Char) : Option (List Char) :=
  if (cs.take marked.length).map Char.toLower = marked then some (cs.drop marked.length) else none

theorem scheme?_eq (cs : List Char) :
    parse?.scheme? cs = ["http", "https"].findSome? fun scheme =>
      (after? (scheme.toList ++ [':']) cs).map (scheme, ·) := by
  rw [parse?.scheme?]
  congr 1
  funext scheme
  rw [after?, apply_ite (Option.map _)]
  rfl

/-- A path behind an address does not change how the address begins. -/
theorem after?_append (marked : List Char) (hmarked : '/' ∉ marked)
    (htail : tail.head? = some '/') (base : List Char) :
    after? marked (base ++ tail) = (after? marked base).map (· ++ tail) := by
  by_cases hlength : marked.length ≤ base.length
  · rw [after?, after?, List.take_append_of_le_length hlength,
      List.drop_append_of_le_length hlength, apply_ite (Option.map _)]
    rfl
  · have hshort : (base.take marked.length).map Char.toLower ≠ marked := by
      intro heq
      have := congrArg List.length heq
      rw [List.length_map, List.length_take] at this
      omega
    have hslash : ((base ++ tail).take marked.length).map Char.toLower ≠ marked := by
      intro heq
      obtain ⟨rest, rfl⟩ := List.head?_eq_some_iff.mp htail
      apply hmarked
      rw [← heq, List.mem_map]
      refine ⟨'/', ?_, by decide⟩
      rw [List.take_append, List.mem_append]
      right
      obtain ⟨n, hn⟩ := Nat.exists_eq_add_of_lt (Nat.lt_of_not_le hlength)
      rw [hn, Nat.add_assoc, Nat.add_sub_cancel_left, List.take_succ_cons]
      exact List.mem_cons_self
    rw [after?, after?, if_neg hshort, if_neg hslash]
    rfl

/-- A scheme ends before the first slash. -/
theorem scheme?_append (htail : tail.head? = some '/') (base : List Char) :
    parse?.scheme? (base ++ tail) =
      (parse?.scheme? base).map fun (scheme, rest) => (scheme, rest ++ tail) := by
  have hhttp := after?_append ("http".toList ++ [':']) (by decide) htail base
  have hhttps := after?_append ("https".toList ++ [':']) (by decide) htail base
  simp only [scheme?_eq, List.findSome?_cons, List.findSome?_nil, hhttp, hhttps]
  cases after? ("http".toList ++ [':']) base with
  | some rest => rfl
  | none => cases after? ("https".toList ++ [':']) base <;> rfl

/-- What names the machine in what follows a scheme. -/
def authority (rest : List Char) : List Char :=
  (rest.dropWhile isSlash).takeWhile (!isDelimiter ·)

/-- What names the machine ends at the latest with the first segment of the path. -/
theorem authority_append {c : Char} (hc : c ∈ stem.dropWhile isSlash)
    (hdelimiter : isDelimiter c = true) (rest tail : List Char) :
    authority (rest ++ stem ++ tail) = authority (rest ++ stem) := by
  have hmem : c ∈ (rest ++ stem).dropWhile isSlash := by
    rw [List.dropWhile_append]
    split
    · exact hc
    · exact List.mem_append_right _ ((List.dropWhile_sublist _).mem hc)
  have hne : ((rest ++ stem).dropWhile isSlash).isEmpty = false :=
    List.isEmpty_eq_false_iff_exists_mem.mpr ⟨c, hmem⟩
  have hends : (((rest ++ stem).dropWhile isSlash).takeWhile (!isDelimiter ·)).length ≠
      ((rest ++ stem).dropWhile isSlash).length := by
    intro hlength
    have hall := List.takeWhile_eq_self_iff.mp
      ((List.takeWhile_prefix (!isDelimiter ·)).eq_of_length hlength) c hmem
    rw [hdelimiter] at hall
    cases hall
  rw [authority, List.dropWhile_append, if_neg (by simp [hne]), List.takeWhile_append, if_neg hends,
    authority]

/-- Whether an address can be asked for. -/
theorem isSome_parse? (s : String) :
    (parse? s).isSome = ((parse?.scheme? (clean s.toList)).bind fun (scheme, rest) =>
      origin? scheme (authority rest)).isSome := by
  rw [parse?]
  cases parse?.scheme? (clean s.toList) with
  | none => rfl
  | some found =>
    obtain ⟨scheme, rest⟩ := found
    simp only [Option.bind_eq_bind, Option.bind_some]
    change ((origin? scheme (authority rest)).bind _).isSome = _
    cases origin? scheme (authority rest) <;> rfl

/-- Whether a path can be asked for does not depend on what stands in it after a first segment. -/
theorem isSome_parse?_append (stem : List Char) {c : Char} (hstem : stem.head? = some '/')
    (hc : c ∈ stem.dropWhile isSlash) (hdelimiter : isDelimiter c = true)
    (hprintable : ((stem ++ tail).all (!isControlOrSpace ·)) = true) {s : String}
    {base : List Char}
    (hs : s.toList = base ++ (stem ++ tail)) :
    (parse? s).isSome =
      ((parse?.scheme? ((base.dropWhile isControlOrSpace).filter (!isRemoved ·))).bind
        fun (scheme, rest) => origin? scheme (authority (rest ++ stem))).isSome := by
  have hhead : (stem ++ tail).head? = some '/' := by
    rw [List.head?_append, hstem]
    rfl
  have hne : stem ++ tail ≠ [] := by
    intro hempty
    rw [hempty] at hhead
    cases hhead
  have hprintable : ∀ c ∈ stem ++ tail, isControlOrSpace c = false := by
    intro c hc
    simpa using List.all_eq_true.mp hprintable c hc
  rw [isSome_parse?, hs, clean_append hne hprintable, scheme?_append hhead,
    Option.bind_map]
  congr 2
  funext ⟨scheme, rest⟩
  simp only [Function.comp_apply, ← List.append_assoc, authority_append hc hdelimiter]

end Quizmaster.Url
