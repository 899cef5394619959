import Quizmaster.Json.Reader
import Quizmaster.Proofs.Dictionary
import Quizmaster.Proofs.Json.Compact

namespace Quizmaster.Json

/-- Sorting leaves every member to be found under its key. -/
theorem lookup_sortMembers {members : List (String × Json)} (h : (members.map Prod.fst).Nodup)
    (name : String) : (sortMembers members).lookup name = members.lookup name :=
  Dictionary.get?_ofList_of_nodup h name

mutual

/-- The value with the members of all its objects in the order of their keys. -/
def sorted : Json → Json
  | .array items => .array (sortedItems items)
  | .object members => .object (sortMembers (sortedMembers members))
  | .null => .null
  | .bool b => .bool b
  | .number n => .number n
  | .string s => .string s

def sortedItems : List Json → List Json
  | [] => []
  | item :: rest => sorted item :: sortedItems rest

def sortedMembers : List (String × Json) → List (String × Json)
  | [] => []
  | (key, value) :: rest => (key, sorted value) :: sortedMembers rest

end

mutual

/-- A value of texts and truth values, in containers nested at most `room` deep. -/
def Textual (room : Nat) : Json → Prop
  | .array items => 0 < room ∧ TextualItems (room - 1) items
  | .object members => 0 < room ∧ TextualMembers (room - 1) members
  | .number _ => False
  | .null | .bool _ | .string _ => True

def TextualItems (room : Nat) : List Json → Prop
  | [] => True
  | item :: rest => Textual room item ∧ TextualItems room rest

def TextualMembers (room : Nat) : List (String × Json) → Prop
  | [] => True
  | (_, value) :: rest => Textual room value ∧ TextualMembers room rest

end

mutual

theorem Textual.legible {room : Nat} : ∀ {j : Json}, Textual room j → Legible j
  | .array _, h => TextualItems.legible h.2
  | .object _, h => TextualMembers.legible h.2
  | .number _, h => h.elim
  | .null, _ | .bool _, _ | .string _, _ => trivial

theorem TextualItems.legible {room : Nat} : ∀ {items : List Json}, TextualItems room items →
    LegibleItems items
  | [], _ => trivial
  | _ :: _, h => ⟨h.1.legible, TextualItems.legible h.2⟩

theorem TextualMembers.legible {room : Nat} : ∀ {members : List (String × Json)},
    TextualMembers room members → LegibleMembers members
  | [], _ => trivial
  | _ :: _, h => ⟨h.1.legible, TextualMembers.legible h.2⟩

end

mutual

/-- A value that is written in texts is read without a schema as the same value with its members
    sorted. -/
theorem Textual.toJson?_written {room : Nat} : ∀ {j : Json}, Textual room j →
    j.written.toJson? room = some j.sorted
  | .array items, h => by
    have hroom : ¬ room = 0 := Nat.ne_of_gt h.1
    have hitems := TextualItems.itemsToJson?_written h.2
    simp only [written, Written.toJson?, hroom, hitems, if_false, Option.map_some, sorted]
  | .object members, h => by
    have hroom : ¬ room = 0 := Nat.ne_of_gt h.1
    have hmembers := TextualMembers.membersToJson?_written h.2
    simp only [written, Written.toJson?, hroom, hmembers, if_false, Option.map_some, sorted]
  | .number _, h => h.elim
  | .null, _ | .bool _, _ | .string _, _ => by simp [written, Written.toJson?, sorted]

theorem TextualItems.itemsToJson?_written {room : Nat} : ∀ {items : List Json},
    TextualItems room items →
    Written.itemsToJson? room (writtenItems items) = some (sortedItems items)
  | [], _ => by simp [writtenItems, Written.itemsToJson?, sortedItems]
  | item :: items, h => by
    have hitem := h.1.toJson?_written
    have hitems := TextualItems.itemsToJson?_written h.2
    simp only [writtenItems, Written.itemsToJson?, hitem, hitems, Option.bind_eq_bind,
      Option.bind_some, sortedItems]
    rfl

theorem TextualMembers.membersToJson?_written {room : Nat} : ∀ {members : List (String × Json)},
    TextualMembers room members →
    Written.membersToJson? room (writtenMembers members) = some (sortedMembers members)
  | [], _ => by simp [writtenMembers, Written.membersToJson?, sortedMembers]
  | (key, value) :: members, h => by
    have hvalue := h.1.toJson?_written
    have hmembers := TextualMembers.membersToJson?_written h.2
    simp only [writtenMembers, Written.membersToJson?, hvalue, hmembers, Option.bind_eq_bind,
      Option.bind_some, sortedMembers]
    rfl

end

/-- Parsing undoes writing, up to the order of members. -/
theorem parse?_compact {j : Json} (h : Textual Written.maxDepth j) :
    parse? j.compact = some j.sorted := by
  rw [parse?, read?_compact h.legible, Option.bind_some, h.toJson?_written]

theorem sortedItems_eq_map (items : List Json) : sortedItems items = items.map sorted := by
  induction items with
  | nil => rfl
  | cons item items ih => rw [sortedItems, ih, List.map_cons]

theorem sortedMembers_eq_map (members : List (String × Json)) :
    sortedMembers members = members.map fun member => (member.1, member.2.sorted) := by
  induction members with
  | nil => rfl
  | cons member members ih => rw [sortedMembers, ih, List.map_cons]

theorem textualItems_iff {room : Nat} {items : List Json} :
    TextualItems room items ↔ ∀ item ∈ items, Textual room item := by
  induction items with
  | nil => simp [TextualItems]
  | cons item items ih => simp [TextualItems, ih]

theorem textualMembers_iff {room : Nat} {members : List (String × Json)} :
    TextualMembers room members ↔ ∀ member ∈ members, Textual room member.2 := by
  induction members with
  | nil => simp [TextualMembers]
  | cons member members ih => simp [TextualMembers, ih]

theorem sorted_ofStrings (items : List String) : (ofStrings items).sorted = ofStrings items := by
  simp only [ofStrings, sorted, sortedItems_eq_map, List.map_map]
  rfl

theorem textual_ofStrings {room : Nat} (hroom : 0 < room) (items : List String) :
    Textual room (ofStrings items) := by
  refine ⟨hroom, textualItems_iff.mpr fun item hitem => ?_⟩
  obtain ⟨s, -, rfl⟩ := List.mem_map.mp hitem
  trivial

/-- What is under a key is under it in the order of keys as well. -/
theorem member?_sorted {members : List (String × Json)} (h : (members.map Prod.fst).Nodup)
    (key : String) :
    (sorted (.object members)).member? key = ((object members).member? key).map sorted := by
  have hkeys : ((sortedMembers members).map Prod.fst).Nodup := by
    rw [sortedMembers_eq_map, List.map_map]
    exact h
  rw [sorted, member?, member?, lookup_sortMembers hkeys, sortedMembers_eq_map]
  induction members with
  | nil => rfl
  | cons member members ih =>
    rw [List.map_cons, List.lookup_cons, List.lookup_cons]
    split
    · rfl
    · rw [List.map_cons, List.nodup_cons] at h
      refine ih h.2 ?_
      rw [sortedMembers_eq_map, List.map_map]
      exact h.2

end Quizmaster.Json
