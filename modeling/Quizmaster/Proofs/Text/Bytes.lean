import Mathlib.Data.String.Basic
import Quizmaster.Proofs.Text.Pieces

namespace Quizmaster

namespace Text

/-- The bytes of a text, character by character. -/
def bytes (cs : List Char) : List UInt8 := cs.flatMap String.utf8EncodeChar

def IsAscii (cs : List Char) : Prop := ∀ c ∈ cs, c.toNat < 0x80

theorem IsAscii.append {cs ds : List Char} (hcs : IsAscii cs) (hds : IsAscii ds) :
    IsAscii (cs ++ ds) := by
  intro c hc
  exact (List.mem_append.mp hc).elim (hcs c) (hds c)

theorem isAscii_of_isDigit {cs : List Char} (h : ∀ c ∈ cs, c.isDigit = true) : IsAscii cs := by
  intro c hc
  have hnine : c.toNat ≤ 57 := (Char.isDigit_iff_toNat.mp (h c hc)).2
  omega

theorem toUTF8_data (s : String) : s.toUTF8.data.toList = bytes s.toList := by
  conv_lhs => rw [← String.ofList_toList (s := s)]
  rw [String.toUTF8_eq_toByteArray, String.toByteArray_ofList, List.utf8Encode]
  exact List.toList_data_toByteArray

/-- An ASCII character is one byte, its code; every other character starts with a higher byte. -/
theorem exists_utf8EncodeChar (c : Char) : ∃ b rest, String.utf8EncodeChar c = b :: rest ∧
    (c.toNat < 0x80 ∧ b.toNat = c.toNat ∧ rest = [] ∨ 0x80 ≤ c.toNat ∧ 0x80 ≤ b.toNat) := by
  have hcode : c.val.toNat = c.toNat := rfl
  simp only [String.utf8EncodeChar, hcode]
  split
  · exact ⟨_, _, rfl, .inl ⟨by omega, by rw [UInt8.toNat_ofNat']; omega, rfl⟩⟩
  · split
    · exact ⟨_, _, rfl, .inr ⟨by omega, by rw [UInt8.toNat_ofNat']; omega⟩⟩
    · split
      · exact ⟨_, _, rfl, .inr ⟨by omega, by rw [UInt8.toNat_ofNat']; omega⟩⟩
      · exact ⟨_, _, rfl, .inr ⟨by omega, by rw [UInt8.toNat_ofNat']; omega⟩⟩

theorem length_bytes {cs : List Char} (h : IsAscii cs) : (bytes cs).length = cs.length := by
  induction cs with
  | nil => rfl
  | cons c cs ih =>
    obtain ⟨hc, hcs⟩ := List.forall_mem_cons.mp h
    obtain ⟨b, rest, hencode, ⟨-, -, rfl⟩ | ⟨hhigh, -⟩⟩ := exists_utf8EncodeChar c
    · simpa [bytes, hencode] using ih hcs
    · omega

section

variable {before cs : List Char}

theorem drop_bytes (h : IsAscii before) :
    (bytes (before ++ cs)).drop before.length = bytes cs := by
  rw [bytes, List.flatMap_append, ← length_bytes h]
  exact List.drop_left

theorem getElem?_bytes (h : IsAscii before) :
    (bytes (before ++ cs))[before.length]? = (bytes cs).head? := by
  rw [← List.head?_drop, drop_bytes h]

/-- A byte below 128 at the start of a character is the character. -/
theorem head?_bytes_eq_iff {b : UInt8} {d : Char} (hb : b.toNat < 0x80) (hd : d.toNat = b.toNat) :
    (bytes cs).head? = some b ↔ cs.head? = some d := by
  cases cs with
  | nil => simp [bytes]
  | cons c cs =>
    obtain ⟨first, rest, hencode, hfirst⟩ := exists_utf8EncodeChar c
    have hhead : (bytes (c :: cs)).head? = some first := by simp [bytes, hencode]
    rw [hhead, List.head?_cons, Option.some.injEq, Option.some.injEq, ← UInt8.toNat_inj,
      ← Char.toNat_inj]
    omega

end

/-- The size of a text counts its bytes. -/
theorem length_bytes_toList (s : String) : (bytes s.toList).length = s.utf8ByteSize := by
  rw [← toUTF8_data]
  rfl

/-- The size of an ASCII text counts its characters. -/
theorem utf8ByteSize_ofList {cs : List Char} (h : IsAscii cs) :
    (String.ofList cs).utf8ByteSize = cs.length := by
  rw [← length_bytes_toList, String.toList_ofList, length_bytes h]

/-- The bytes of a text are the first ones of every text that goes on after it. -/
theorem firstBytes?_append (s t : String) : firstBytes? (s ++ t) s.utf8ByteSize = some s := by
  have hvalid : String.Pos.Raw.IsValidForSlice (s ++ t).toSlice ⟨s.utf8ByteSize⟩ :=
    String.Pos.Raw.isValidForSlice_iff_exists_append.mpr ⟨s, t, String.copy_toSlice, rfl⟩
  have hstop : (s ++ t).pos? ⟨s.utf8ByteSize⟩ =
      some (String.Pos.ofToSlice ((s ++ t).toSlice.pos _ hvalid)) := by
    rw [String.pos?, String.Slice.pos?,
      dif_pos (String.Pos.Raw.isValidForSlice_eq_true_iff.mpr hvalid)]
    rfl
  have hsplits : (String.Pos.ofToSlice ((s ++ t).toSlice.pos _ hvalid)).Splits s t := ⟨rfl, rfl⟩
  rw [firstBytes?, hstop, Option.map_some, hsplits.copy_sliceTo_eq]

theorem toList_loop_eq (content : ByteArray) (i : Nat) (read : List UInt8) :
    ByteArray.toList.loop content i read = read.reverse ++ content.data.toList.drop i := by
  fun_induction ByteArray.toList.loop content i read with
  | case1 i read hroom ih =>
    have hi : i < content.data.toList.length := hroom
    have hbyte : content.get! i = content.data.toList[i] := by
      change content.data[i]! = _
      rw [getElem!_pos content.data i hroom, Array.getElem_toList]
    rw [ih, hbyte, List.drop_eq_getElem_cons hi, List.reverse_cons, List.append_assoc]
    rfl
  | case2 i read hend =>
    have hi : content.data.toList.length ≤ i := Nat.le_of_not_lt hend
    rw [List.drop_eq_nil_of_le hi, List.append_nil]

theorem toList_toUTF8 (s : String) : s.toUTF8.toList = bytes s.toList := by
  rw [ByteArray.toList, toList_loop_eq, toUTF8_data]
  rfl

/-- The bytes of a text are read as it. -/
theorem fromUTF8?_bytes (cs : List Char) :
    String.fromUTF8? ⟨(bytes cs).toArray⟩ = some (String.ofList cs) := by
  have hbytes : (⟨(bytes cs).toArray⟩ : ByteArray) = (String.ofList cs).toUTF8 := by
    refine ByteArray.ext (Array.toList_inj.mp ?_)
    rw [toUTF8_data, String.toList_ofList]
  rw [hbytes]
  exact dif_pos (String.ofList cs).isValidUTF8

/-- Beyond ASCII all bytes of a character are high. -/
theorem high_of_mem_utf8EncodeChar {c : Char} (h : 0x80 ≤ c.toNat) :
    ∀ b ∈ String.utf8EncodeChar c, 0x80 ≤ b.toNat := by
  have hcode : c.val.toNat = c.toNat := rfl
  simp only [String.utf8EncodeChar, hcode]
  split_ifs with hascii
  · omega
  -- Two, three or four bytes: each has its highest bit set.
  all_goals
    simp only [List.forall_mem_cons, List.not_mem_nil, false_implies, implies_true,
      and_true, UInt8.toNat_ofNat']
    omega

/-- The byte of an ASCII character is in no other character. -/
theorem not_mem_utf8EncodeChar {b : UInt8} {c d : Char} (hb : b.toNat < 0x80)
    (hd : d.toNat = b.toNat) (h : c ≠ d) : b ∉ String.utf8EncodeChar c := by
  intro hmem
  obtain ⟨first, rest, hencode, ⟨-, hfirst, rfl⟩ | ⟨hhigh, -⟩⟩ := exists_utf8EncodeChar c
  · rw [hencode, List.mem_singleton] at hmem
    rw [← hmem, ← hd] at hfirst
    exact h (Char.toNat_inj.mp hfirst.symm)
  · exact absurd (high_of_mem_utf8EncodeChar hhigh _ hmem) (Nat.not_le.mpr hb)

theorem bytes_eq_nil_iff {cs : List Char} : bytes cs = [] ↔ cs = [] := by
  cases cs with
  | nil => exact iff_of_true rfl rfl
  | cons c cs =>
    obtain ⟨b, rest, hencode, -⟩ := exists_utf8EncodeChar c
    simp [bytes, hencode]

theorem bytes_append (cs ds : List Char) : bytes (cs ++ ds) = bytes cs ++ bytes ds :=
  List.flatMap_append

theorem bytes_cons (c : Char) (cs : List Char) :
    bytes (c :: cs) = String.utf8EncodeChar c ++ bytes cs :=
  List.flatMap_cons

section

variable {b b' : UInt8} {d d' : Char} {cs : List Char}

/-- The byte of an ASCII character is found nowhere else. -/
theorem not_mem_bytes (hb : b.toNat < 0x80) (hd : d.toNat = b.toNat) (h : d ∉ cs) :
    b ∉ bytes cs := by
  intro hmem
  obtain ⟨c, hc, hbyte⟩ := List.mem_flatMap.mp hmem
  refine not_mem_utf8EncodeChar hb hd ?_ hbyte
  rintro rfl
  exact h hc

/-- Two ASCII characters that do not follow each other do not do so as bytes. -/
theorem not_infix_bytes (hb : b.toNat < 0x80) (hb' : b'.toNat < 0x80) (hd : d.toNat = b.toNat)
    (hd' : d'.toNat = b'.toNat) (h : ¬ [d, d'] <:+: cs) : ¬ [b, b'] <:+: bytes cs := by
  induction cs with
  | nil => simp [bytes]
  | cons c cs ih =>
    rw [List.infix_cons_iff, not_or] at h
    have hrest : ¬ [b, b'] <:+: bytes cs := ih h.2
    rw [bytes_cons]
    obtain ⟨first, rest, hencode, ⟨-, hfirst, rfl⟩ | ⟨hhigh, -⟩⟩ := exists_utf8EncodeChar c
    · rw [hencode, List.singleton_append, List.infix_cons_iff, not_or]
      refine ⟨fun hprefix => h.1 ?_, hrest⟩
      obtain ⟨rfl, hnext⟩ := List.cons_prefix_cons.mp hprefix
      rw [← hd, Char.toNat_inj] at hfirst
      subst hfirst
      refine List.cons_prefix_cons.mpr ⟨rfl, ?_⟩
      rw [List.singleton_prefix_iff_head?_eq_some] at hnext ⊢
      exact (head?_bytes_eq_iff hb' hd').mp hnext
    · refine not_infix_append_of_forall (List.cons_ne_nil _ _) (fun a ha hmem => ?_) hrest
      have hlow := high_of_mem_utf8EncodeChar hhigh a ha
      rcases List.mem_pair.mp hmem with rfl | rfl <;> omega

end

/-- The bytes of characters tell which comes first, whatever follows. -/
theorem utf8EncodeChar_append_lt {c d : Char} (h : c < d) (cs ds : List UInt8) :
    String.utf8EncodeChar c ++ cs < String.utf8EncodeChar d ++ ds := by
  have hlt : c.val.toNat < d.val.toNat := h
  have hbound : d.val.toNat < 0x110000 := by
    have hvalid := d.valid
    simp only [UInt32.isValidChar, Nat.isValidChar] at hvalid
    omega
  simp only [String.utf8EncodeChar]
  generalize c.val.toNat = m at *
  generalize d.val.toNat = n at *
  -- What the bytes of the longest form hold.
  have hdigits (k : Nat) : k = 262144 * (k / 262144) + 4096 * (k / 4096 % 64) +
      64 * (k / 64 % 64) + k % 64 := by omega
  have hm := hdigits m
  have hn := hdigits n
  -- A longer form starts with a higher byte, and within one form the bytes are digits.
  repeat' split
  all_goals
    simp (disch := omega) only [List.cons_append, List.nil_append, List.cons_lt_cons_iff,
      UInt8.lt_iff_toNat_lt, ← UInt8.toNat_inj, UInt8.toNat_ofNat', Nat.mod_eq_of_lt]
    omega

theorem bytes_lt_bytes {cs ds : List Char} (h : cs < ds) : bytes cs < bytes ds := by
  induction cs generalizing ds with
  | nil =>
    cases ds with
    | nil => cases h
    | cons d ds =>
      obtain ⟨b, rest, hbytes⟩ := List.exists_cons_of_ne_nil
        (mt bytes_eq_nil_iff.mp (List.cons_ne_nil d ds))
      rw [hbytes]
      exact List.nil_lt_cons b rest
  | cons c cs ih =>
    cases ds with
    | nil => cases h
    | cons d ds =>
      rw [bytes_cons, bytes_cons]
      obtain hlt | ⟨rfl, hlt⟩ := List.cons_lt_cons_iff.mp h
      · exact utf8EncodeChar_append_lt hlt _ _
      · exact List.append_left_lt (ih hlt)

/-- The order of texts is that of their bytes. -/
theorem bytes_lt_bytes_iff {cs ds : List Char} : bytes cs < bytes ds ↔ cs < ds := by
  refine ⟨fun h => ?_, bytes_lt_bytes⟩
  obtain hlt | rfl | hlt := lt_trichotomy cs ds
  · exact hlt
  · exact absurd h (List.lt_irrefl _)
  · exact absurd h (List.lt_asymm (bytes_lt_bytes hlt))

/-- The order of texts is that of their bytes. -/
theorem toUTF8_lt_toUTF8_iff {s t : String} :
    s.toUTF8.data.toList < t.toUTF8.data.toList ↔ s < t := by
  rw [toUTF8_data, toUTF8_data, bytes_lt_bytes_iff, String.lt_iff_toList_lt]

end Text

end Quizmaster
