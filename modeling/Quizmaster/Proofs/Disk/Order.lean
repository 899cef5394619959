import Quizmaster.Proofs.Disk
import Quizmaster.Proofs.Text.Bytes

namespace Quizmaster

namespace Disk

/-- Every part of a well-named tree is well-named. -/
theorem Node.WellNamed.of_find? {root node : Node} {place : List String} (h : root.WellNamed)
    (hfind : root.find? place = some node) : node.WellNamed := by
  induction place generalizing root with
  | nil =>
    obtain rfl := Option.some.inj hfind
    exact h
  | cons name names ih =>
    cases root with
    | file content => cases hfind
    | directory entries =>
      rw [find?_cons] at hfind
      obtain ⟨inner, hlookup, hinner⟩ := Option.bind_eq_some_iff.mp hfind
      exact ih (h.of_lookup hlookup) hinner

/-- What a path leads to is well-named, as the whole tree is. -/
theorem wellNamed_of_node {disk : Disk} {path : String} {node : Node}
    (h : disk.node path = .ok node) : node.WellNamed := by
  obtain ⟨place, -, hfind⟩ := node_ok_iff.mp h
  exact disk.root.wellNamed.of_find? hfind

/-- Where two places part ways, the name of the first comes before the other in the order of
    bytes. -/
def Precedes (place place' : List String) : Prop :=
  ∃ above name name' below below', place = above ++ name :: below ∧
    place' = above ++ name' :: below' ∧
    name.toUTF8.data.toList < name'.toUTF8.data.toList

namespace Precedes

variable {place place' : List String}

theorem of_lt {name name' : String} (h : name < name') (below below' : List String) :
    Precedes (name :: below) (name' :: below') :=
  ⟨[], name, name', below, below', rfl, rfl, Text.toUTF8_lt_toUTF8_iff.mpr h⟩

theorem cons (h : Precedes place place') (name : String) :
    Precedes (name :: place) (name :: place') := by
  obtain ⟨above, first, first', below, below', rfl, rfl, hlt⟩ := h
  exact ⟨name :: above, first, first', below, below', rfl, rfl, hlt⟩

/-- Of two places that part, the one of the lesser name comes first. -/
theorem lt (h : Precedes place place') : place < place' := by
  obtain ⟨above, name, name', below, below', rfl, rfl, hlt⟩ := h
  exact List.append_left_lt (List.cons_lt_cons_iff.mpr (.inl (Text.toUTF8_lt_toUTF8_iff.mp hlt)))

theorem ne (h : Precedes place place') : place ≠ place' := by
  rintro rfl
  exact lt_irrefl _ h.lt

theorem asymm (h : Precedes place place') : ¬ Precedes place' place :=
  fun h' => lt_asymm h.lt h'.lt

end Precedes

end Disk

end Quizmaster
