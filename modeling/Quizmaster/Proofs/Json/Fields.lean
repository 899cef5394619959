import Mathlib.Data.List.Forall2
import Quizmaster.Json.Written

namespace Quizmaster.Json.Written

/-- What members give for a name: the value of the only one that has it, or nothing if none has. -/
def GivenBy (members : List (String × Written)) (name : String) : Option Written → Prop
  | none => ∀ member ∈ members, member.1 ≠ name
  | some value => ∃ before after, members = before ++ (name, value) :: after ∧
      ∀ member ∈ before ++ after, member.1 ≠ name

/-- The values that a text gives for the fields of a record. -/
inductive Gives (names : List String) : Written → List (Option Written) → Prop
  /-- All keys of the object are texts. -/
  | object {members : List (String × Written)} {fields : List (Option Written)}
      (hfields : List.Forall₂ (GivenBy members) names fields) :
      Gives names (.object (members.map fun member => (some member.1, member.2))) fields
  | array {items : List Written} (hlength : items.length ≤ names.length) :
      Gives names (.array items)
        (items.map some ++ List.replicate (names.length - items.length) none)

theorem Gives.length_eq {names : List String} {w : Written} {fields : List (Option Written)}
    (h : w.Gives names fields) : fields.length = names.length := by
  cases h with
  | object hfields => exact hfields.length_eq.symm
  | array hlength => simp [hlength]

theorem mapM_eq_some_iff {α β : Type} {f : α → Option β} {as : List α} {bs : List β} :
    as.mapM f = some bs ↔ List.Forall₂ (fun a b => f a = some b) as bs := by
  induction as generalizing bs with
  | nil =>
    rw [List.mapM_nil, List.forall₂_nil_left_iff]
    exact Option.some_inj.trans eq_comm
  | cons a as ih =>
    rw [List.mapM_cons, List.forall₂_cons_left_iff]
    simp only [Option.bind_eq_bind, Option.bind_eq_some_iff, ih]
    constructor
    · rintro ⟨b, hb, bs, hbs, hall⟩
      exact ⟨b, bs, hb, hbs, (Option.some.inj hall).symm⟩
    · rintro ⟨b, bs, hb, hbs, rfl⟩
      exact ⟨b, hb, bs, hbs, rfl⟩

section

variable {members : List (String × Written)} {name : String} {field : Option Written}

/-- The value under a name, unless several members have it. -/
def given? (members : List (String × Written)) (name : String) : Option (Option Written) :=
  match members.filter fun member => member.1 == name with
  | [] => some none
  | [(_, value)] => some (some value)
  | _ => none

theorem filter_eq_nil_iff_forall_ne :
    members.filter (fun member => member.1 == name) = [] ↔ ∀ member ∈ members, member.1 ≠ name := by
  simp only [List.filter_eq_nil_iff, beq_iff_eq, ne_eq]

theorem filter_eq_singleton_iff {key : String} {value : Written} :
    members.filter (fun member => member.1 == name) = [(key, value)] ↔
      key = name ∧ GivenBy members name (some value) := by
  rw [List.filter_eq_cons_iff]
  constructor
  · rintro ⟨before, after, rfl, hbefore, hname, hafter⟩
    have hname : key = name := beq_iff_eq.mp hname
    refine ⟨hname, before, after, by rw [hname], fun other hother => ?_⟩
    obtain hother | hother := List.mem_append.mp hother
    · simpa using hbefore other hother
    · exact filter_eq_nil_iff_forall_ne.mp hafter other hother
  · rintro ⟨rfl, before, after, rfl, hothers⟩
    refine ⟨before, after, rfl, fun other hother => ?_, beq_self_eq_true _, ?_⟩
    · simpa using hothers other (List.mem_append_left _ hother)
    · exact filter_eq_nil_iff_forall_ne.mpr fun other hother =>
        hothers other (List.mem_append_right _ hother)

/-- A field is what the only member of its name holds, or nothing if there is none. -/
theorem given?_eq_some_iff : given? members name = some field ↔ GivenBy members name field := by
  unfold given?
  constructor
  · intro h
    split at h
    · next hfilter =>
      obtain rfl := Option.some.inj h
      exact filter_eq_nil_iff_forall_ne.mp hfilter
    · next key value hfilter =>
      obtain rfl := Option.some.inj h
      exact (filter_eq_singleton_iff.mp hfilter).2
    · cases h
  · intro h
    cases field with
    | none => rw [filter_eq_nil_iff_forall_ne.mpr h]
    | some value => rw [filter_eq_singleton_iff.mpr ⟨rfl, h⟩]

end

/-- Keys can be compared if all of them are texts. -/
theorem mapM_keys_eq_some_iff {members : List (Option String × Written)}
    {named : List (String × Written)} :
    members.mapM (fun (key, value) => key.map fun k => (k, value)) = some named ↔
      members = named.map fun member => (some member.1, member.2) := by
  rw [mapM_eq_some_iff, ← List.forall₂_eq_eq_eq, List.forall₂_map_right_iff]
  suffices h : ∀ (member : Option String × Written) (other : String × Written),
      (member.1.map fun k => (k, member.2)) = some other ↔ member = (some other.1, other.2) by
    simp only [h]
  rintro ⟨key, value⟩ ⟨name, other⟩
  cases key <;> simp

/-- What is not there is left out. -/
theorem map_getElem?_range (items : List Written) {n : Nat} (h : items.length ≤ n) :
    (List.range n).map (items[·]?) =
      items.map some ++ List.replicate (n - items.length) none := by
  refine List.ext_getElem (by simp [h]) fun i hi _ => ?_
  rw [List.getElem_map, List.getElem_range, List.getElem_append]
  split
  · next hlt => simp [List.getElem?_eq_getElem (by simpa using hlt)]
  · next hle => simpa using hle

/-- A record is read from a text that gives its fields and from no other. -/
theorem fields?_eq_some_iff {w : Written} {names : List String} {fields : List (Option Written)} :
    w.fields? names = some fields ↔ Gives names w fields := by
  cases w with
  | object members =>
    simp only [fields?, Option.bind_eq_bind, Option.bind_eq_some_iff, mapM_keys_eq_some_iff]
    constructor
    · rintro ⟨named, rfl, hfields⟩
      exact .object ((mapM_eq_some_iff.mp hfields).imp fun _ _ => given?_eq_some_iff.mp)
    · intro h
      generalize hw : Written.object members = w at h
      cases h with
      | @object named _ hfields =>
        exact ⟨named, Written.object.inj hw,
          mapM_eq_some_iff.mpr (hfields.imp fun _ _ => given?_eq_some_iff.mpr)⟩
      | array hlength => cases hw
  | array items =>
    rw [fields?]
    constructor
    · intro h
      split at h
      · next hlength =>
        rw [← Option.some.inj h, map_getElem?_range items hlength]
        exact .array hlength
      · cases h
    · intro h
      cases h with
      | array hlength => rw [if_pos hlength, map_getElem?_range items hlength]
  | _ => exact ⟨nofun, nofun⟩

end Quizmaster.Json.Written
