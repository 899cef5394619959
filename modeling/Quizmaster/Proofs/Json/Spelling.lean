import Mathlib.Data.List.TakeWhile
import Quizmaster.Proofs.Json.NumeralText
import Quizmaster.Proofs.Json.QuotedText

namespace Quizmaster.Json

/-- White space between tokens. -/
def Blank (cs : List Char) : Prop := ∀ c ∈ cs, isSpace c = true

mutual

/-- A text of the value that starts with its first token and ends with its last. -/
inductive Spells : Written → List Char → Prop
  | null : Spells .null ['n', 'u', 'l', 'l']
  | boolTrue : Spells (.bool true) ['t', 'r', 'u', 'e']
  | boolFalse : Spells (.bool false) ['f', 'a', 'l', 's', 'e']
  | number {n : Numeral} (hform : n.WellFormed) (hjson : isNumeral n = true) :
      Spells (.number n) n.text
  | string (s : String) : Spells (.string s) (quote s).toList
  | emptyArray {gap : List Char} (hgap : Blank gap) : Spells (.array []) ('[' :: gap ++ [']'])
  | array {items : List Written} {cs : List Char} (hitems : SpellsItems items cs) :
      Spells (.array items) ('[' :: cs ++ [']'])
  | emptyObject {gap : List Char} (hgap : Blank gap) : Spells (.object []) ('{' :: gap ++ ['}'])
  | object {members : List (Option String × Written)} {cs : List Char}
      (hmembers : SpellsMembers members cs) : Spells (.object members) ('{' :: cs ++ ['}'])

/-- A text of one item or more, with commas between them. -/
inductive SpellsItems : List Written → List Char → Prop
  | last {item : Written} {before cs after : List Char} (hbefore : Blank before)
      (hitem : Spells item cs) (hafter : Blank after) :
      SpellsItems [item] (before ++ cs ++ after)
  | cons {item : Written} {items : List Written} {before cs after rest : List Char}
      (hbefore : Blank before) (hitem : Spells item cs) (hafter : Blank after)
      (hitems : SpellsItems items rest) :
      SpellsItems (item :: items) (before ++ cs ++ after ++ ',' :: rest)

/-- A text of one member or more, with commas between them. -/
inductive SpellsMembers : List (Option String × Written) → List Char → Prop
  | last {key : String} {value : Written} {before between cs after : List Char}
      (hbefore : Blank before) (hbetween : Blank between) (hvalue : Spells value cs)
      (hafter : Blank after) :
      SpellsMembers [(some key, value)]
        (before ++ (quote key).toList ++ ':' :: between ++ cs ++ after)
  | cons {key : String} {value : Written} {members : List (Option String × Written)}
      {before between cs after rest : List Char} (hbefore : Blank before)
      (hbetween : Blank between) (hvalue : Spells value cs) (hafter : Blank after)
      (hmembers : SpellsMembers members rest) :
      SpellsMembers ((some key, value) :: members)
        (before ++ (quote key).toList ++ ':' :: between ++ cs ++ after ++ ',' :: rest)

end

theorem skipSpace_append {gap : List Char} (h : Blank gap) (cs : List Char) :
    skipSpace (gap ++ cs) = skipSpace cs :=
  List.dropWhile_append_of_pos h

theorem skipSpace_cons {c : Char} (h : isSpace c = false) (cs : List Char) :
    skipSpace (c :: cs) = c :: cs := by
  simp [skipSpace, h]

/-- The characters that a value can start with. -/
def startsValue (c : Char) : Bool :=
  c == 'n' || c == 't' || c == 'f' || c == '"' || c == '[' || c == '{' || c == '-' || c.isDigit

theorem isSpace_of_startsValue {c : Char} (h : startsValue c = true) : isSpace c = false := by
  refine Bool.eq_false_iff.mpr fun hspace => ?_
  simp only [isSpace, Bool.or_eq_true, beq_iff_eq] at hspace
  rcases hspace with ((rfl | rfl) | rfl) | rfl <;> exact absurd h (by decide)

/-- A numeral in JSON's grammar starts with a minus sign or a digit. -/
theorem exists_numeral_text {n : Numeral} (hform : n.WellFormed) (hjson : isNumeral n = true) :
    ∃ c cs, n.text = c :: cs ∧ (c = '-' ∨ c.isDigit = true) := by
  simp only [isNumeral, Bool.and_eq_true, bne_iff_ne, ne_eq] at hjson
  obtain ⟨⟨⟨hplus, hwhole⟩, -⟩, -⟩ := hjson
  obtain ⟨d, digits, hdigits⟩ := List.exists_cons_of_ne_nil hwhole
  cases hsign : n.sign with
  | plus => exact absurd hsign hplus
  | minus => exact ⟨'-', _, by simp [Numeral.text, hsign, Sign.text]; rfl, .inl rfl⟩
  | absent =>
    exact ⟨d, _, by simp [Numeral.text, hsign, Sign.text, hdigits]; rfl,
      .inr (hform.whole_isDigit d (by simp [hdigits]))⟩

/-- A spelling starts with the first character of a value. -/
theorem Spells.exists_cons {w : Written} {cs : List Char} (h : Spells w cs) :
    ∃ c rest, cs = c :: rest ∧ startsValue c = true := by
  cases h with
  | null => exact ⟨_, _, rfl, rfl⟩
  | boolTrue => exact ⟨_, _, rfl, rfl⟩
  | boolFalse => exact ⟨_, _, rfl, rfl⟩
  | number hform hjson =>
    obtain ⟨c, rest, htext, hc⟩ := exists_numeral_text hform hjson
    exact ⟨c, rest, htext, by obtain rfl | hc := hc <;> simp [startsValue, *]⟩
  | string s => exact ⟨_, _, quote_toList s, rfl⟩
  | emptyArray hgap => exact ⟨_, _, rfl, rfl⟩
  | array hitems => exact ⟨_, _, rfl, rfl⟩
  | emptyObject hgap => exact ⟨_, _, rfl, rfl⟩
  | object hmembers => exact ⟨_, _, rfl, rfl⟩

/-- White space in front of a value makes no difference. -/
theorem readValue_blank {gap : List Char} (h : Blank gap) (fuel : Nat) (cs : List Char) :
    readValue fuel (gap ++ cs) = readValue fuel cs := by
  cases fuel with
  | zero => rfl
  | succ fuel => simp only [readValue, skipSpace_append h]

/-- White space before an item makes no difference. -/
theorem readItems_blank {gap : List Char} (h : Blank gap) (fuel : Nat) (cs : List Char) :
    readItems fuel (gap ++ cs) = readItems fuel cs := by
  cases fuel with
  | zero => rfl
  | succ fuel => simp only [readItems, readValue_blank h]

theorem readMembers_blank {gap : List Char} (h : Blank gap) (fuel : Nat) (cs : List Char) :
    readMembers fuel (gap ++ cs) = readMembers fuel cs := by
  cases fuel with
  | zero => rfl
  | succ fuel => simp only [readMembers, skipSpace_append h]

/-- A text that ends a value: a numeral before it does not go on. -/
theorem ends_of_blank {gap rest : List Char} {c : Char} (h : Blank gap)
    (hc : c = ',' ∨ c = ']' ∨ c = '}') : Numeral.Ends (gap ++ c :: rest) := by
  intro d hd
  cases gap with
  | nil =>
    have : c = d := by simpa using hd
    subst this
    rcases hc with rfl | rfl | rfl <;> decide
  | cons g gap =>
    have : g = d := by simpa using hd
    subst this
    have hspace := h g (by simp)
    simp only [isSpace, Bool.or_eq_true, beq_iff_eq] at hspace
    rcases hspace with ((rfl | rfl) | rfl) | rfl <;> decide

/-- A number is read as the numeral that is written. -/
theorem readNumber_text {n : Numeral} (hform : n.WellFormed) (hjson : isNumeral n = true)
    {rest : List Char} (hrest : Numeral.Ends rest) :
    readNumber (n.text ++ rest) = some (.number n, rest) := by
  simp [readNumber, Numeral.scan?_text_append hform hrest, hjson]

theorem readValue_eq_readNumber {c : Char} (hc : c = '-' ∨ c.isDigit = true) (fuel : Nat)
    (cs : List Char) : readValue (fuel + 1) (c :: cs) = readNumber (c :: cs) := by
  have hstart : startsValue c = true := by
    rcases hc with rfl | hc
    · rfl
    · simp [startsValue, hc]
  have hne (d : Char) (hd : d.isDigit = false) (hminus : d ≠ '-') : c ≠ d := by
    rintro rfl
    rcases hc with hc | hc
    · exact hminus hc
    · exact Bool.false_ne_true (hd.symm.trans hc)
  rw [readValue, skipSpace_cons (isSpace_of_startsValue hstart)]
  split
  · next h => exact absurd (List.cons.inj h).1 (hne 'n' rfl (by decide))
  · next h => exact absurd (List.cons.inj h).1 (hne 't' rfl (by decide))
  · next h => exact absurd (List.cons.inj h).1 (hne 'f' rfl (by decide))
  · next h => exact absurd (List.cons.inj h).1 (hne '"' rfl (by decide))
  · next h => exact absurd (List.cons.inj h).1 (hne '[' rfl (by decide))
  · next h => exact absurd (List.cons.inj h).1 (hne '{' rfl (by decide))
  · rfl

/-- After an opening bracket that no closing one follows, items are read. -/
theorem readValue_array {items : List Written} {cs rest : List Char} {fuel : Nat}
    (hcs : (skipSpace (cs ++ ']' :: rest)).head? ≠ some ']')
    (hread : readItems fuel (skipSpace (cs ++ ']' :: rest)) = some (items, rest)) :
    readValue (fuel + 1) ('[' :: (cs ++ ']' :: rest)) = some (.array items, rest) := by
  rw [readValue, skipSpace_cons (by decide)]
  simp only
  split
  · next h => simp [h] at hcs
  · rw [hread]
    rfl

/-- After an opening brace that no closing one follows, members are read. -/
theorem readValue_object {members : List (Option String × Written)} {cs rest : List Char}
    {fuel : Nat} (hcs : (skipSpace (cs ++ '}' :: rest)).head? ≠ some '}')
    (hread : readMembers fuel (skipSpace (cs ++ '}' :: rest)) = some (members, rest)) :
    readValue (fuel + 1) ('{' :: (cs ++ '}' :: rest)) = some (.object members, rest) := by
  rw [readValue, skipSpace_cons (by decide)]
  simp only
  split
  · next h => simp [h] at hcs
  · rw [hread]
    rfl

theorem exists_blank_append (cs : List Char) : ∃ gap, Blank gap ∧ cs = gap ++ skipSpace cs :=
  ⟨cs.takeWhile isSpace, fun _ hc => List.mem_takeWhile_imp hc, List.takeWhile_append_dropWhile.symm⟩

theorem readItems_skipSpace (fuel : Nat) (cs : List Char) :
    readItems fuel (skipSpace cs) = readItems fuel cs := by
  obtain ⟨gap, hgap, hcs⟩ := exists_blank_append cs
  rw [congrArg (readItems fuel) hcs, readItems_blank hgap]

theorem readMembers_skipSpace (fuel : Nat) (cs : List Char) :
    readMembers fuel (skipSpace cs) = readMembers fuel cs := by
  obtain ⟨gap, hgap, hcs⟩ := exists_blank_append cs
  rw [congrArg (readMembers fuel) hcs, readMembers_blank hgap]

/-- The first item's own first character is the first one that is not white space. -/
theorem SpellsItems.head?_skipSpace {items : List Written} {cs : List Char}
    (h : SpellsItems items cs) (rest : List Char) :
    (skipSpace (cs ++ rest)).head? ≠ some ']' := by
  have key {item : Written} {before cs : List Char} (hbefore : Blank before)
      (hitem : Spells item cs) (rest : List Char) :
      (skipSpace (before ++ (cs ++ rest))).head? ≠ some ']' := by
    obtain ⟨c, tail, rfl, hc⟩ := hitem.exists_cons
    rw [skipSpace_append hbefore, List.cons_append, skipSpace_cons (isSpace_of_startsValue hc)]
    rintro ⟨⟩
    exact absurd hc (by decide)
  cases h with
  | last hbefore hitem hafter => simpa using key hbefore hitem _
  | cons hbefore hitem hafter hitems => simpa using key hbefore hitem _

theorem SpellsMembers.head?_skipSpace {members : List (Option String × Written)} {cs : List Char}
    (h : SpellsMembers members cs) (rest : List Char) :
    (skipSpace (cs ++ rest)).head? ≠ some '}' := by
  have key {before : List Char} (hbefore : Blank before) (key : String) (rest : List Char) :
      (skipSpace (before ++ ((quote key).toList ++ rest))).head? ≠ some '}' := by
    rw [skipSpace_append hbefore, quote_toList, List.cons_append, skipSpace_cons (by decide)]
    simp
  cases h with
  | last hbefore hbetween hvalue hafter => simpa using key hbefore _ _
  | cons hbefore hbetween hvalue hafter hmembers => simpa using key hbefore _ _

/-- What comes of an item depends on the character after it. -/
theorem readItems_item {item : Written} {before cs after rest : List Char} {c : Char} {fuel : Nat}
    (hbefore : Blank before) (hafter : Blank after) (hc : isSpace c = false)
    (hread : readValue fuel (cs ++ (after ++ c :: rest)) = some (item, after ++ c :: rest)) :
    readItems (fuel + 1) (before ++ (cs ++ (after ++ c :: rest))) =
      match c :: rest with
      | ',' :: rest => (readItems fuel rest).bind fun (items, rest) => some (item :: items, rest)
      | ']' :: rest => some ([item], rest)
      | _ => none := by
  rw [readItems, readValue_blank hbefore, hread]
  simp only [Option.bind_eq_bind, Option.bind_some, skipSpace_append hafter, skipSpace_cons hc]
  rfl

/-- A member is read with the white space around its parts, up to the comma or the brace behind it.
    -/
theorem readMembers_member {key : String} {value : Written} {before between cs after rest : List Char}
    {c : Char} {fuel : Nat} (hbefore : Blank before) (hbetween : Blank between)
    (hafter : Blank after) (hc : isSpace c = false)
    (hread : readValue fuel (cs ++ (after ++ c :: rest)) = some (value, after ++ c :: rest)) :
    readMembers (fuel + 1)
        (before ++ ((quote key).toList ++ (':' :: (between ++ (cs ++ (after ++ c :: rest)))))) =
      match c :: rest with
      | ',' :: rest =>
        (readMembers fuel rest).bind fun (members, rest) => some ((some key, value) :: members, rest)
      | '}' :: rest => some ([(some key, value)], rest)
      | _ => none := by
  rw [readMembers, skipSpace_append hbefore, quote_toList, List.cons_append,
    skipSpace_cons (by decide), List.append_assoc, List.singleton_append]
  simp only [readString_quote, Option.bind_eq_bind, Option.bind_some]
  rw [skipSpace_cons (by decide)]
  simp only [readValue_blank hbetween, hread, Option.bind_some, skipSpace_append hafter,
    skipSpace_cons hc]
  rfl

mutual

/-- The reader takes a spelled value off the text in front of it. Each token takes a unit of fuel at
    most, so a unit for each character is enough. -/
theorem Spells.readValue_append {w : Written} {cs : List Char} (h : Spells w cs) {fuel : Nat}
    (hfuel : cs.length ≤ fuel) {rest : List Char} (hrest : Numeral.Ends rest) :
    readValue fuel (cs ++ rest) = some (w, rest) := by
  cases fuel with
  | zero =>
    obtain ⟨c, cs, rfl, -⟩ := h.exists_cons
    simp at hfuel
  | succ fuel =>
    cases h with
    | null => simp [readValue, skipSpace_cons (show isSpace 'n' = false from rfl)]
    | boolTrue => simp [readValue, skipSpace_cons (show isSpace 't' = false from rfl)]
    | boolFalse => simp [readValue, skipSpace_cons (show isSpace 'f' = false from rfl)]
    | number hform hjson =>
      obtain ⟨c, cs, htext, hc⟩ := exists_numeral_text hform hjson
      rw [htext, List.cons_append, readValue_eq_readNumber hc, ← List.cons_append, ← htext]
      exact readNumber_text hform hjson hrest
    | string s =>
      rw [quote_toList, List.cons_append, readValue, skipSpace_cons (by decide)]
      simp [readString_quote]
    | emptyArray hgap =>
      rw [List.cons_append, List.cons_append, List.append_assoc, List.singleton_append, readValue,
        skipSpace_cons (by decide)]
      simp [skipSpace_append hgap, skipSpace_cons (show isSpace ']' = false from rfl)]
    | emptyObject hgap =>
      rw [List.cons_append, List.cons_append, List.append_assoc, List.singleton_append, readValue,
        skipSpace_cons (by decide)]
      simp [skipSpace_append hgap, skipSpace_cons (show isSpace '}' = false from rfl)]
    | array hitems =>
      simp only [List.cons_append, List.append_assoc, List.length_cons, List.length_append,
        List.length_nil] at hfuel ⊢
      refine readValue_array (hitems.head?_skipSpace _) ?_
      rw [readItems_skipSpace]
      exact hitems.readItems_append (by omega)
    | object hmembers =>
      simp only [List.cons_append, List.append_assoc, List.length_cons, List.length_append,
        List.length_nil] at hfuel ⊢
      refine readValue_object (hmembers.head?_skipSpace _) ?_
      rw [readMembers_skipSpace]
      exact hmembers.readMembers_append (by omega)

/-- The items that a text spells are read up to the closing bracket. -/
theorem SpellsItems.readItems_append {items : List Written} {cs : List Char}
    (h : SpellsItems items cs) {fuel : Nat} (hfuel : cs.length < fuel) {rest : List Char} :
    readItems fuel (cs ++ ']' :: rest) = some (items, rest) := by
  obtain ⟨fuel, rfl⟩ : ∃ n, fuel = n + 1 := ⟨fuel - 1, by omega⟩
  cases h with
  | last hbefore hitem hafter =>
    simp only [List.length_append] at hfuel
    simp only [List.append_assoc]
    rw [readItems_item hbefore hafter (by decide)
      (hitem.readValue_append (by omega) (ends_of_blank hafter (by simp)))]
    rfl
  | cons hbefore hitem hafter hitems =>
    simp only [List.length_append, List.length_cons] at hfuel
    simp only [List.append_assoc, List.cons_append]
    rw [readItems_item hbefore hafter (by decide)
      (hitem.readValue_append (by omega) (ends_of_blank hafter (by simp)))]
    simp [hitems.readItems_append (show _ < fuel by omega)]

/-- The members that a text spells are read up to the closing brace. -/
theorem SpellsMembers.readMembers_append {members : List (Option String × Written)}
    {cs : List Char} (h : SpellsMembers members cs) {fuel : Nat} (hfuel : cs.length < fuel)
    {rest : List Char} : readMembers fuel (cs ++ '}' :: rest) = some (members, rest) := by
  obtain ⟨fuel, rfl⟩ : ∃ n, fuel = n + 1 := ⟨fuel - 1, by omega⟩
  cases h with
  | last hbefore hbetween hvalue hafter =>
    simp only [List.length_append, List.length_cons] at hfuel
    simp only [List.append_assoc, List.cons_append]
    rw [readMembers_member hbefore hbetween hafter (by decide)
      (hvalue.readValue_append (by omega) (ends_of_blank hafter (by simp)))]
    rfl
  | cons hbefore hbetween hvalue hafter hmembers =>
    simp only [List.length_append, List.length_cons] at hfuel
    simp only [List.append_assoc, List.cons_append]
    rw [readMembers_member hbefore hbetween hafter (by decide)
      (hvalue.readValue_append (by omega) (ends_of_blank hafter (by simp)))]
    simp [hmembers.readMembers_append (show _ < fuel by omega)]

end

/-- The text of a value, with white space around it or without, is read as that value. -/
theorem Spells.read? {w : Written} {s : String} (h : Spells w s.toList) : read? s = some w := by
  have hends : Numeral.Ends [] := by
    intro c hc
    cases hc
  have hread := h.readValue_append (Nat.le_succ _) hends
  rw [List.append_nil] at hread
  rw [Json.read?, hread]
  rfl

end Quizmaster.Json
