import Quizmaster.Proofs.Environment
import Quizmaster.Proofs.Text.Bytes

namespace Quizmaster.Environment

open Text (bytes)

/-- Where in the bytes a reference opens first. -/
def opening? : List UInt8 → Option Nat
  | [] => none
  | b :: rest =>
    if [0x24, 0x7B].isPrefixOf (b :: rest) then some 0 else (opening? rest).map (· + 1)

/-- Where a reference opens first, and how far from there its closing brace is. -/
def places? (s : String) : Option (Nat × Nat) := do
  let start ← opening? (bytes s.toList)
  let stop ← ((bytes s.toList).drop start).idxOf? 0x7D
  return (start, stop)

/-- The text between two places, unless they cut a character. -/
def slice? (s : String) (start stop : Nat) : Option String :=
  String.fromUTF8? ⟨(((bytes s.toList).take stop).drop start).toArray⟩

/-- A text in the middle of its expansion: what is written, and what is still to be gone over. -/
structure Pass where
  written : String
  rest : String

/-- Replaces the next reference. -/
def Pass.next? (env : Environment) (p : Pass) : Option Pass := do
  let (start, stop) ← places? p.rest
  let before ← slice? p.rest 0 start
  let name ← slice? p.rest (start + 2) (start + stop)
  let rest ← slice? p.rest (start + stop + 1) p.rest.utf8ByteSize
  return ⟨p.written ++ before ++ (env.get? name).getD "", rest⟩

/-- So many passes come after each other, and then there is no reference to replace. A pass that cut a
    character would lead nowhere. -/
inductive Leads (env : Environment) : Nat → Pass → Pass → Prop
  | stop {p : Pass} (hnone : places? p.rest = none) : Leads env 0 p p
  | pass {n : Nat} {p q last : Pass} (hnext : p.next? env = some q) (hrest : Leads env n q last) :
      Leads env (n + 1) p last

section

variable {front back : List UInt8}

/-- The first opening is found behind bytes that open nothing. -/
theorem opening?_append (hfront : ¬ [0x24, 0x7B] <:+: front) (hback : back.head? ≠ some 0x7B) :
    opening? (front ++ back) = (opening? back).map (· + front.length) := by
  induction front with
  | nil => simp
  | cons b front ih =>
    rw [List.infix_cons_iff, not_or] at hfront
    have hhere : ¬ [0x24, 0x7B].isPrefixOf (b :: (front ++ back)) = true := by
      rw [List.isPrefixOf_iff_prefix]
      exact not_pair_prefix_append hfront.1 hback
    rw [List.cons_append, opening?, if_neg hhere, ih hfront.2, Option.map_map]
    congr 1

theorem idxOf?_append_cons {b : UInt8} (h : b ∉ front) :
    (front ++ b :: back).idxOf? b = some front.length := by
  induction front with
  | nil => rw [List.nil_append, List.idxOf?_cons, if_pos (beq_self_eq_true b), List.length_nil]
  | cons c front ih =>
    rw [List.mem_cons, not_or] at h
    have hother : ¬ (c == b) = true := by
      rw [beq_iff_eq]
      exact fun hcb => h.1 hcb.symm
    rw [List.cons_append, List.idxOf?_cons, if_neg hother, ih h.2, Option.map_some,
      List.length_cons]

end

section

variable {env : Environment} {s before name rest : String}

/-- A text that opens nothing has no bytes that do. -/
theorem not_infix_bytes_of_not_occurs (h : ¬ Text.Occurs opening s) :
    ¬ [0x24, 0x7B] <:+: bytes s.toList :=
  Text.not_infix_bytes (by decide) (by decide) rfl rfl h

theorem bytes_opened (before rest : String) : bytes (before ++ opening ++ rest).toList =
    bytes before.toList ++ 0x24 :: 0x7B :: bytes rest.toList := by
  rw [toList_opened, Text.bytes_append, Text.bytes_cons, Text.bytes_cons]
  rfl

/-- The place of the first opening, in bytes, is the size of what stands before it. -/
theorem opening?_opened (hbefore : ¬ Text.Occurs opening before) :
    opening? (bytes (before ++ opening ++ rest).toList) = some before.utf8ByteSize := by
  rw [bytes_opened, opening?_append (not_infix_bytes_of_not_occurs hbefore) (by simp),
    ← Text.length_bytes_toList]
  simp [opening?]

theorem drop_bytes_opened (before rest : String) :
    (bytes (before ++ opening ++ rest).toList).drop before.utf8ByteSize =
      0x24 :: 0x7B :: bytes rest.toList := by
  rw [bytes_opened, ← Text.length_bytes_toList, List.drop_left]

theorem places?_unopened (h : ¬ Text.Occurs opening s) : places? s = none := by
  have hnone : opening? (bytes s.toList ++ []) = (opening? []).map (· + (bytes s.toList).length) :=
    opening?_append (not_infix_bytes_of_not_occurs h) (by simp)
  rw [List.append_nil, opening?, Option.map_none] at hnone
  rw [places?, hnone]
  rfl

theorem places?_unclosed (hbefore : ¬ Text.Occurs opening before) (hrest : '}' ∉ rest.toList) :
    places? (before ++ opening ++ rest) = none := by
  have hbrace : 0x7D ∉ bytes rest.toList := Text.not_mem_bytes (by decide) rfl hrest
  have hnone : (0x24 :: 0x7B :: bytes rest.toList).idxOf? 0x7D = none := by
    rw [List.idxOf?_eq_none_iff]
    simpa using hbrace
  simp only [places?, opening?_opened hbefore, Option.bind_eq_bind, Option.bind_some,
    drop_bytes_opened, hnone, Option.bind_none]

/-- The brace is found behind the opening and the name. -/
theorem places?_reference (hbefore : ¬ Text.Occurs opening before) (hname : '}' ∉ name.toList) :
    places? (before ++ opening ++ name ++ closing ++ rest) =
      some (before.utf8ByteSize, 2 + name.utf8ByteSize) := by
  have htext : before ++ opening ++ name ++ closing ++ rest =
      before ++ opening ++ (name ++ closing ++ rest) := by
    simp only [String.append_assoc]
  have hbrace : 0x7D ∉ 0x24 :: 0x7B :: bytes name.toList := by
    have habsent : 0x7D ∉ bytes name.toList := Text.not_mem_bytes (by decide) rfl hname
    simpa using habsent
  have hbytes : bytes (name ++ closing ++ rest).toList =
      bytes name.toList ++ 0x7D :: bytes rest.toList := by
    rw [String.toList_append, String.toList_append, Text.bytes_append, Text.bytes_append,
      List.append_assoc]
    rfl
  have hstop : (0x24 :: 0x7B :: bytes (name ++ closing ++ rest).toList).idxOf? 0x7D =
      some (0x24 :: 0x7B :: bytes name.toList).length := by
    rw [hbytes]
    exact idxOf?_append_cons hbrace
  simp only [places?, htext, opening?_opened hbefore, Option.bind_eq_bind, Option.bind_some,
    drop_bytes_opened, hstop, List.length_cons, Text.length_bytes_toList]
  rw [Nat.add_comm 2]
  rfl

/-- What stands between two other texts is cut out as it is. -/
theorem slice?_append (a b c : String) :
    slice? (a ++ b ++ c) a.utf8ByteSize (a.utf8ByteSize + b.utf8ByteSize) = some b := by
  have hbytes : ((bytes (a ++ b ++ c).toList).take (a.utf8ByteSize + b.utf8ByteSize)).drop
      a.utf8ByteSize = bytes b.toList := by
    rw [String.toList_append, String.toList_append, Text.bytes_append, Text.bytes_append,
      ← Text.length_bytes_toList, ← Text.length_bytes_toList, ← List.length_append, List.take_left,
      List.drop_left]
  rw [slice?, hbytes, Text.fromUTF8?_bytes, String.ofList_toList]

/-- A pass writes what stands before the reference and the value of its variable, and leaves what
    stands behind the brace. -/
theorem Pass.next?_reference (hbefore : ¬ Text.Occurs opening before) (hname : '}' ∉ name.toList)
    (written : String) :
    Pass.next? env ⟨written, before ++ opening ++ name ++ closing ++ rest⟩ =
      some ⟨written ++ before ++ (env.get? name).getD "", rest⟩ := by
  have hopening : opening.utf8ByteSize = 2 := rfl
  have hbrace : closing.utf8ByteSize = 1 := rfl
  have hfirst := slice?_append "" before (opening ++ name ++ closing ++ rest)
  have hsecond := slice?_append (before ++ opening) name (closing ++ rest)
  have hthird := slice?_append (before ++ opening ++ name ++ closing) rest ""
  simp only [String.utf8ByteSize_append, hopening, hbrace, String.append_empty,
    String.empty_append, String.utf8ByteSize_empty, Nat.zero_add, ← String.append_assoc]
    at hfirst hsecond hthird
  simp only [Pass.next?, places?_reference hbefore hname, Option.bind_eq_bind, Option.bind_some,
    String.utf8ByteSize_append, hopening, hbrace]
  rw [← Nat.add_assoc, hfirst, hsecond, hthird]
  rfl

/-- The loop comes to an end. A pass takes at least the opening and the brace away. -/
theorem exists_leads (env : Environment) (written s : String) :
    ∃ n last, Leads env n ⟨written, s⟩ last ∧ 3 * n ≤ s.utf8ByteSize ∧
      last.written ++ last.rest = written ++ env.expand s := by
  have hexpand := expands_expand env
  obtain hunopened | ⟨before, rest, rfl, hbefore, hrest⟩ |
      ⟨before, name, rest, hs, hbefore, hname⟩ := reference_cases s
  · refine ⟨0, _, .stop (places?_unopened hunopened), Nat.zero_le _, ?_⟩
    rw [hexpand.unopened s hunopened]
  · refine ⟨0, _, .stop (places?_unclosed hbefore hrest), Nat.zero_le _, ?_⟩
    rw [hexpand.unclosed before rest hbefore hrest]
  · have hsize : s.utf8ByteSize =
        before.utf8ByteSize + 2 + name.utf8ByteSize + 1 + rest.utf8ByteSize := by
      rw [hs]
      simp only [String.utf8ByteSize_append]
      rfl
    obtain ⟨n, last, hleads, hbound, hlast⟩ :=
      exists_leads env (written ++ before ++ (env.get? name).getD "") rest
    refine ⟨n + 1, last, ?_, by omega, ?_⟩
    · rw [hs]
      exact .pass (Pass.next?_reference hbefore hname written) hleads
    · rw [hlast, hs, hexpand.reference before name rest hbefore hname]
      simp only [String.append_assoc]
termination_by s.utf8ByteSize

end

/-- References are replaced in one pass from left to right. The rules for this have one solution
    only, and the loop over the bytes ends with it, after at most as many passes as references fit
    into the text. -/
theorem expand_left_to_right (env : Environment) :
    (∀ f : String → String, Expands env f ↔ f = env.expand) ∧
    ∀ s, ∃ n last, Leads env n ⟨"", s⟩ last ∧ 3 * n ≤ s.utf8ByteSize ∧
      last.written ++ last.rest = env.expand s := by
  constructor
  · intro f
    constructor
    · exact fun h => funext h.eq_expand
    · rintro rfl
      exact expands_expand env
  · intro s
    obtain ⟨n, last, hleads, hbound, hlast⟩ := exists_leads env "" s
    exact ⟨n, last, hleads, hbound, by rw [hlast, String.empty_append]⟩

/-- A name may hold an opening, a value is not looked through again for a reference to its own
    variable, and the last reference is not closed. -/
example :
    let reference (name : String) := opening ++ name ++ closing
    let env := Environment.ofList [("A", reference "A"), (opening ++ "é", "→")]
    env.expand ("ß" ++ reference "A" ++ reference (opening ++ "é") ++ reference "B" ++ opening) =
      "ß" ++ reference "A" ++ "→" ++ opening := by decide +kernel

end Quizmaster.Environment
