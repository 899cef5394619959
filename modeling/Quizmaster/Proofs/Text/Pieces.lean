import Quizmaster.Proofs.Text

namespace Quizmaster.Text

theorem not_mem_of_mem_splitOn {α : Type} [BEq α] [LawfulBEq α] {separator : α} {as piece : List α}
    (h : piece ∈ as.splitOn separator) : separator ∉ piece := by
  induction as generalizing piece with
  | nil =>
    rw [List.splitOn_nil, List.mem_singleton] at h
    rw [h]
    exact List.not_mem_nil
  | cons a as ih =>
    rw [List.splitOn_cons_eq_if_modifyHead] at h
    split at h
    · rcases List.mem_cons.mp h with rfl | hrest
      · exact List.not_mem_nil
      · exact ih hrest
    · next hkept =>
      obtain ⟨first, rest, hpieces⟩ := List.exists_cons_of_ne_nil (List.splitOn_ne_nil separator as)
      rw [hpieces] at h ih
      rcases List.mem_cons.mp h with rfl | hrest
      · rw [List.mem_cons, not_or]
        exact ⟨fun heq => hkept (beq_iff_eq.mpr heq.symm), ih List.mem_cons_self⟩
      · exact ih (List.mem_cons_of_mem _ hrest)

section

variable {separator : Char} {s t last : String} {init : List String}

/-- No piece holds the separator. -/
theorem not_mem_of_mem_split {piece : String} (h : piece ∈ split separator s) :
    separator ∉ piece.toList := by
  obtain ⟨cs, hcs, rfl⟩ := List.mem_map.mp h
  rw [String.toList_ofList]
  exact not_mem_of_mem_splitOn hcs

theorem split_ne_nil (separator : Char) (s : String) : split separator s ≠ [] := by
  rw [split, ne_eq, List.map_eq_nil_iff]
  exact List.splitOn_ne_nil separator _

/-- The join of the pieces is the text. -/
theorem join_split (separator : Char) (s : String) :
    join (String.singleton separator) (split separator s) = s := by
  rw [← String.toList_inj, toList_join, split, List.map_map, String.toList_singleton]
  have hpieces : String.toList ∘ String.ofList = id := funext fun cs => String.toList_ofList
  rw [hpieces, List.map_id, List.intercalate_splitOn]

theorem split_of_not_mem (h : separator ∉ s.toList) : split separator s = [s] := by
  rw [split, List.splitOn_eq_singleton h, List.map_singleton, String.ofList_toList]

/-- A text is cut at each of its separators, so also at any one. -/
theorem split_append_separator (separator : Char) (s t : String) :
    split separator (s ++ String.singleton separator ++ t) =
      split separator s ++ split separator t := by
  have htext : (s ++ String.singleton separator ++ t).toList =
      s.toList ++ separator :: t.toList := by
    simp [String.toList_append]
  rw [split, htext, List.splitOn_append_cons_self, List.map_append]
  rfl

/-- A piece in front of a separator is split off. -/
theorem split_append (h : separator ∉ s.toList) (t : String) :
    split separator (s ++ String.singleton separator ++ t) = s :: split separator t := by
  rw [split_append_separator, split_of_not_mem h, List.singleton_append]

theorem join_cons (separator s : String) {items : List String} (h : items ≠ []) :
    join separator (s :: items) = s ++ separator ++ join separator items := by
  cases items with
  | nil => exact absurd rfl h
  | cons t rest => rfl

/-- What follows a join lengthens its last item. -/
theorem join_concat_append (separator last t : String) (init : List String) :
    join separator (init ++ [last ++ t]) = join separator (init ++ [last]) ++ t := by
  induction init with
  | nil => rfl
  | cons s init ih =>
    have hne (last : String) : init ++ [last] ≠ [] := List.concat_ne_nil last init
    rw [List.cons_append, List.cons_append, join_cons _ _ (hne _), join_cons _ _ (hne _), ih,
      ← String.append_assoc]

/-- What has no separator goes to the last piece. -/
theorem split_append_of_not_mem (hs : split separator s = init ++ [last])
    (ht : separator ∉ t.toList) : split separator (s ++ t) = init ++ [last ++ t] := by
  have htext : s ++ t = join (String.singleton separator) (init ++ [last ++ t]) := by
    rw [join_concat_append, ← hs, join_split]
  have hpieces : ∀ piece ∈ init ++ [last ++ t], separator ∉ piece.toList := by
    intro piece hpiece
    rcases List.mem_append.mp hpiece with hinit | hlast
    · apply not_mem_of_mem_split (s := s)
      rw [hs]
      exact List.mem_append_left _ hinit
    · have hmem : last ∈ split separator s := by
        rw [hs]
        exact List.mem_append_right _ List.mem_cons_self
      rw [List.mem_singleton.mp hlast, String.toList_append, List.mem_append, not_or]
      exact ⟨not_mem_of_mem_split hmem, ht⟩
  rw [htext, split_join hpieces (List.concat_ne_nil _ _)]

end

/-- Whether a text stands somewhere in another. -/
def Occurs (pattern s : String) : Prop := pattern.toList <:+: s.toList

section

variable {pattern cs : List Char} {c : Char}

theorem eraseFrom_length_append (pattern skipped cs : List Char) :
    eraseFrom pattern skipped.length (skipped ++ cs) = eraseFrom pattern 0 cs := by
  induction skipped with
  | nil => rfl
  | cons c skipped ih => exact ih

/-- Where the pattern starts nowhere in a text, the text is kept. -/
theorem eraseFrom_append (rest : List Char)
    (h : ∀ front back, cs = front ++ back → back ≠ [] → ¬ pattern <+: back ++ rest) :
    eraseFrom pattern 0 (cs ++ rest) = cs ++ eraseFrom pattern 0 rest := by
  induction cs with
  | nil => rfl
  | cons c cs ih =>
    have hhere : ¬ pattern.isPrefixOf (c :: (cs ++ rest)) = true := by
      rw [List.isPrefixOf_iff_prefix]
      exact h [] (c :: cs) rfl (List.cons_ne_nil c cs)
    rw [List.cons_append, eraseFrom, if_neg hhere, List.cons_append]
    congr 1
    apply ih
    intro front back hcs hback
    exact h (c :: front) back (congrArg (c :: ·) hcs) hback

theorem eraseFrom_of_not_within (h : ¬ pattern <:+: cs) : eraseFrom pattern 0 cs = cs := by
  have hkept : eraseFrom pattern 0 (cs ++ []) = cs ++ eraseFrom pattern 0 [] := by
    apply eraseFrom_append
    intro front back hcs _ hstart
    apply h
    rw [hcs]
    rw [List.append_nil] at hstart
    exact hstart.isInfix.trans (List.suffix_append front back).isInfix
  rwa [List.append_nil, eraseFrom, List.append_nil] at hkept

/-- A start without a certain character lies before it. -/
theorem prefix_of_prefix_append_cons {before after : List Char} (hc : c ∉ pattern)
    (h : pattern <+: before ++ c :: after) : pattern <+: before := by
  obtain ⟨rest, hrest⟩ := h
  rcases List.append_eq_append_iff.mp hrest with ⟨between, hbefore, -⟩ | ⟨between, rfl, hcons⟩
  · exact ⟨between, hbefore.symm⟩
  · cases between with
    | nil => exact ⟨[], by simp⟩
    | cons d between =>
      obtain ⟨rfl, -⟩ := List.cons.inj hcons
      exact absurd (List.mem_append_right before List.mem_cons_self) hc

/-- A pattern whose first character does not come again in it does not reach into a rest that starts
    with this character. -/
theorem eraseFrom_append_cons {tail rest : List Char} (hc : c ∉ tail) (h : ¬ c :: tail <:+: cs) :
    eraseFrom (c :: tail) 0 (cs ++ c :: rest) = cs ++ eraseFrom (c :: tail) 0 (c :: rest) := by
  apply eraseFrom_append
  rintro front back rfl hback hstart
  apply h
  obtain ⟨first, back, rfl⟩ := List.exists_cons_of_ne_nil hback
  obtain ⟨rfl, htail⟩ := List.cons_prefix_cons.mp hstart
  have hwithin : c :: tail <+: c :: back :=
    List.cons_prefix_cons.mpr ⟨rfl, prefix_of_prefix_append_cons hc htail⟩
  exact hwithin.isInfix.trans (List.suffix_append front (c :: back)).isInfix

/-- A pattern at the end is removed, if its first character does not come again in it and it is
    nowhere else. -/
theorem eraseFrom_append_pattern {tail : List Char} (hc : c ∉ tail) (h : ¬ c :: tail <:+: cs) :
    eraseFrom (c :: tail) 0 (cs ++ c :: tail) = cs := by
  have hend : eraseFrom (c :: tail) 0 (c :: tail) = [] := by
    have hskip := eraseFrom_length_append (c :: tail) tail []
    rw [List.append_nil] at hskip
    rw [eraseFrom, if_pos (List.isPrefixOf_iff_prefix.mpr List.prefix_rfl)]
    exact hskip
  rw [eraseFrom_append_cons hc h, hend, List.append_nil]

end

section

variable {α : Type} {pattern as bs : List α} {a : α}

/-- A character that the pattern lacks begins no occurrence of it. -/
theorem not_infix_cons (hne : pattern ≠ []) (ha : a ∉ pattern) (h : ¬ pattern <:+: as) :
    ¬ pattern <:+: a :: as := by
  rw [List.infix_cons_iff, List.prefix_cons_iff]
  rintro ((hnil | ⟨tail, rfl, -⟩) | hwithin)
  · exact hne hnil
  · exact ha List.mem_cons_self
  · exact h hwithin

/-- Characters that the pattern lacks are part of no occurrence of it. -/
theorem not_infix_append_of_forall (hne : pattern ≠ []) (has : ∀ a ∈ as, a ∉ pattern)
    (h : ¬ pattern <:+: bs) : ¬ pattern <:+: as ++ bs := by
  induction as with
  | nil => exact h
  | cons a as ih =>
    obtain ⟨ha, has⟩ := List.forall_mem_cons.mp has
    exact not_infix_cons hne ha (ih has)

/-- A pattern does not reach across something that is not in it. -/
theorem not_infix_append_cons (hne : pattern ≠ []) (ha : a ∉ pattern) (has : ¬ pattern <:+: as)
    (hbs : ¬ pattern <:+: bs) : ¬ pattern <:+: as ++ a :: bs := by
  rw [List.infix_append_iff]
  rintro (hwithin | hwithin | ⟨before, after, rfl, hbefore, hafter⟩)
  · exact has hwithin
  · exact not_infix_cons hne ha hbs hwithin
  · rcases List.prefix_cons_iff.mp hafter with rfl | ⟨tail, rfl, -⟩
    · rw [List.append_nil] at has
      exact has hbefore.isInfix
    · exact ha (List.mem_append_right before List.mem_cons_self)

end

end Quizmaster.Text
