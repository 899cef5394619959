import Quizmaster.Environment
import Quizmaster.Proofs.Text.Pieces

namespace Quizmaster.Environment

/-- What a reference opens with. -/
def opening : String := "$\x7b"

/-- What it is closed by. -/
def closing : String := "\x7d"

section

variable {env : Environment} {cs before rest : List Char}

/-- Two things that do not follow each other in a list do so at its end only if the next is the
    second of them. -/
theorem not_pair_prefix_append {α : Type} {a x y : α} {as bs : List α}
    (h : ¬ [x, y] <+: a :: as) (hbs : bs.head? ≠ some y) : ¬ [x, y] <+: a :: (as ++ bs) := by
  intro hpair
  obtain ⟨rfl, hnext⟩ := List.cons_prefix_cons.mp hpair
  rw [List.singleton_prefix_iff_head?_eq_some] at hnext
  cases as with
  | nil => exact hbs hnext
  | cons b as =>
    apply h
    rw [List.cons_prefix_cons, List.singleton_prefix_iff_head?_eq_some]
    exact ⟨rfl, hnext⟩

theorem expandChars_cons {c : Char} (h : ¬ opening.toList <+: c :: cs) :
    expandChars env (c :: cs) = c :: expandChars env cs := by
  rw [expandChars]
  rintro rest rfl rfl
  exact h (List.prefix_append ['$', '{'] rest)

/-- Where no reference opens, the text is kept. -/
theorem expandChars_append (h : ¬ opening.toList <:+: before) (hrest : rest.head? ≠ some '{') :
    expandChars env (before ++ rest) = before ++ expandChars env rest := by
  induction before with
  | nil => rfl
  | cons c before ih =>
    rw [List.infix_cons_iff, not_or] at h
    rw [List.cons_append, expandChars_cons (not_pair_prefix_append h.1 hrest), ih h.2,
      List.cons_append]

/-- Without a brace the reference that opened stays as it is written. -/
theorem expandName_of_not_mem {name : List Char} (h : '}' ∉ rest) :
    expandName env name rest = '$' :: '{' :: (name.reverse ++ rest) := by
  induction rest generalizing name with
  | nil => rw [expandName, List.append_nil]
  | cons c rest ih =>
    rw [List.mem_cons, not_or] at h
    rw [expandName, ih h.2, List.reverse_cons, List.append_assoc, List.singleton_append]
    exact fun hc => h.1 hc.symm

/-- A reference that is closed gives the value of its variable, and the rest is gone over. -/
theorem expandName_append {name more : List Char} (h : '}' ∉ more) :
    expandName env name (more ++ '}' :: rest) =
      env.value (name.reverse ++ more) ++ expandChars env rest := by
  induction more generalizing name with
  | nil => rw [List.nil_append, expandName, List.append_nil]
  | cons c more ih =>
    rw [List.mem_cons, not_or] at h
    rw [List.cons_append, expandName, ih h.2, List.reverse_cons, List.append_assoc,
      List.singleton_append]
    exact fun hc => h.1 hc.symm

theorem expandChars_of_unopened (h : ¬ opening.toList <:+: cs) : expandChars env cs = cs := by
  have hkept : expandChars env (cs ++ []) = cs ++ expandChars env [] :=
    expandChars_append h (by simp)
  rwa [List.append_nil, expandChars, List.append_nil] at hkept

/-- A reference that is not closed is kept, with all that follows. -/
theorem expandChars_of_unclosed (hbefore : ¬ opening.toList <:+: before) (hrest : '}' ∉ rest) :
    expandChars env (before ++ '$' :: '{' :: rest) = before ++ '$' :: '{' :: rest := by
  rw [expandChars_append hbefore (by simp), expandChars, expandName_of_not_mem hrest]
  rfl

/-- What stands before the first reference is copied, the reference is replaced, and the rest is
    gone over. -/
theorem expandChars_reference {name : List Char} (hbefore : ¬ opening.toList <:+: before)
    (hname : '}' ∉ name) (rest : List Char) :
    expandChars env (before ++ '$' :: '{' :: (name ++ '}' :: rest)) =
      before ++ env.value name ++ expandChars env rest := by
  rw [expandChars_append hbefore (by simp), expandChars, expandName_append hname,
    List.append_assoc]
  rfl

theorem exists_first_opening (h : opening.toList <:+: cs) :
    ∃ before rest, cs = before ++ '$' :: '{' :: rest ∧ ¬ opening.toList <:+: before := by
  induction cs with
  | nil => cases List.eq_nil_of_infix_nil h
  | cons c cs ih =>
    by_cases hhere : opening.toList <+: c :: cs
    · obtain ⟨rest, hrest⟩ := hhere
      refine ⟨[], rest, hrest.symm, fun hwithin => ?_⟩
      cases List.eq_nil_of_infix_nil hwithin
    · obtain ⟨before, rest, rfl, hbefore⟩ := ih ((List.infix_cons_iff.mp h).resolve_left hhere)
      refine ⟨c :: before, rest, rfl, ?_⟩
      rw [List.infix_cons_iff, not_or]
      refine ⟨fun hstart => hhere ?_, hbefore⟩
      exact hstart.trans (List.prefix_append (c :: before) ('$' :: '{' :: rest))

end

theorem toList_opened (before rest : String) :
    (before ++ opening ++ rest).toList = before.toList ++ '$' :: '{' :: rest.toList := by
  simp [String.toList_append, opening]

theorem toList_reference (before name rest : String) :
    (before ++ opening ++ name ++ closing ++ rest).toList =
      before.toList ++ '$' :: '{' :: (name.toList ++ '}' :: rest.toList) := by
  simp [String.toList_append, opening, closing]

/-- No reference opens in a text, or the first one is never closed, or it is followed by a rest. -/
theorem reference_cases (s : String) :
    ¬ Text.Occurs opening s ∨
    (∃ before rest, s = before ++ opening ++ rest ∧ ¬ Text.Occurs opening before ∧
      '}' ∉ rest.toList) ∨
    ∃ before name rest, s = before ++ opening ++ name ++ closing ++ rest ∧
      ¬ Text.Occurs opening before ∧ '}' ∉ name.toList := by
  by_cases hopens : Text.Occurs opening s
  · obtain ⟨before, rest, htext, hbefore⟩ := exists_first_opening hopens
    rw [← String.toList_ofList (l := before)] at htext hbefore
    by_cases hcloses : '}' ∈ rest
    · obtain ⟨name, rest, rfl, hname⟩ := List.eq_append_cons_of_mem hcloses
      rw [← String.toList_ofList (l := name), ← String.toList_ofList (l := rest),
        ← toList_reference, String.toList_inj] at htext
      rw [← String.toList_ofList (l := name)] at hname
      exact .inr (.inr ⟨_, _, _, htext, hbefore, hname⟩)
    · rw [← String.toList_ofList (l := rest), ← toList_opened, String.toList_inj] at htext
      rw [← String.toList_ofList (l := rest)] at hcloses
      exact .inr (.inl ⟨_, _, htext, hbefore, hcloses⟩)
  · exact .inl hopens

/-- The rules of replacing references. -/
structure Expands (env : Environment) (f : String → String) : Prop where
  /-- A text in which no reference opens stays. -/
  unopened : ∀ s, ¬ Text.Occurs opening s → f s = s
  /-- So does one whose first reference is not closed. -/
  unclosed : ∀ before rest, ¬ Text.Occurs opening before → '}' ∉ rest.toList →
    f (before ++ opening ++ rest) = before ++ opening ++ rest
  /-- The first reference gives way to the value of its variable, whatever that is, and only the rest
      is gone over. -/
  reference : ∀ before name rest, ¬ Text.Occurs opening before → '}' ∉ name.toList →
    f (before ++ opening ++ name ++ closing ++ rest) = before ++ (env.get? name).getD "" ++ f rest

/-- Expansion keeps the three rules: a text that opens nothing is kept, so is one whose first
    reference is not closed, and else that reference is replaced before the rest is expanded. -/
theorem expands_expand (env : Environment) : Expands env env.expand where
  unopened s h := by rw [expand, expandChars_of_unopened h, String.ofList_toList]
  unclosed before rest hbefore hrest := by
    rw [expand, toList_opened, expandChars_of_unclosed hbefore hrest, ← toList_opened,
      String.ofList_toList]
  reference before name rest hbefore hname := by
    rw [expand, toList_reference, expandChars_reference hbefore hname, String.ofList_append,
      String.ofList_append, String.ofList_toList, value, String.ofList_toList,
      String.ofList_toList, expand]

/-- The rules say what becomes of every text. -/
theorem Expands.eq_expand {env : Environment} {f : String → String} (h : Expands env f)
    (s : String) : f s = env.expand s := by
  have hexpand := expands_expand env
  obtain hunopened | ⟨before, rest, rfl, hbefore, hrest⟩ |
      ⟨before, name, rest, hs, hbefore, hname⟩ := reference_cases s
  · rw [h.unopened s hunopened, hexpand.unopened s hunopened]
  · rw [h.unclosed before rest hbefore hrest, hexpand.unclosed before rest hbefore hrest]
  · have hshorter : rest.toList.length < s.toList.length := by
      rw [hs, toList_reference]
      simp only [List.length_append, List.length_cons]
      omega
    rw [hs, h.reference before name rest hbefore hname,
      hexpand.reference before name rest hbefore hname, h.eq_expand rest]
termination_by s.toList.length

end Quizmaster.Environment
