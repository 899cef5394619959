import Mathlib.Data.List.Nodup
import Mathlib.Logic.Function.Iterate
import Quizmaster.Progress

namespace Quizmaster

namespace Badge

theorem mem_all (b : Badge) : b ∈ all := by
  cases b <;> decide

/-- Badges are listed by the stars that they take. -/
theorem pairwise_threshold : all.Pairwise fun b c => b.threshold < c.threshold := by
  decide

end Badge

namespace Badges

variable {badges others : Badges} {b : Badge}

@[simp] theorem mem_toList : b ∈ badges.toList ↔ b ∈ badges := Iff.rfl

@[simp] theorem contains_iff : badges.contains b = true ↔ b ∈ badges := List.contains_iff_mem

@[simp] theorem contains_eq_false_iff : badges.contains b = false ↔ b ∉ badges := by
  rw [← Bool.not_eq_true, contains_iff]

@[simp] theorem mem_of {p : Badge → Bool} : b ∈ of p ↔ p b = true := by
  rw [← mem_toList, of, List.mem_filter, and_iff_right (Badge.mem_all b)]

@[simp] theorem mem_ofList {list : List Badge} : b ∈ ofList list ↔ b ∈ list :=
  mem_of.trans List.contains_iff_mem

/-- Badges are held in the order of the stars that they take. -/
theorem pairwise_threshold (badges : Badges) :
    badges.toList.Pairwise fun b c => b.threshold < c.threshold :=
  Badge.pairwise_threshold.sublist badges.sublist

/-- Sets of the same badges are the same. -/
theorem ext_mem (h : ∀ b, b ∈ badges ↔ b ∈ others) : badges = others := by
  have hnodup (badges : Badges) : badges.toList.Nodup :=
    badges.pairwise_threshold.imp fun hlt heq => Nat.ne_of_lt hlt (congrArg _ heq)
  have hperm : badges.toList.Perm others.toList :=
    (List.perm_ext_iff_of_nodup (hnodup badges) (hnodup others)).mpr h
  exact Badges.ext (hperm.eq_of_pairwise (fun _ _ _ _ hlt hgt => absurd hgt (Nat.lt_asymm hlt))
    badges.pairwise_threshold others.pairwise_threshold)

theorem ofList_toList (badges : Badges) : ofList badges.toList = badges :=
  ext_mem fun _ => mem_ofList

end Badges

namespace Badge

/-- The badges of one who held some and has so many stars. -/
def granted (stars : Nat) (held : Badges) : Badges :=
  .of fun b => held.contains b || b.threshold ≤ stars

/-- Badges held before are kept, and those are granted that the stars suffice for. -/
theorem mem_granted {stars : Nat} {held : Badges} {b : Badge} :
    b ∈ granted stars held ↔ b ∈ held ∨ b.threshold ≤ stars := by
  simp [granted]

/-- The larger of two counts decides which badges are granted. -/
theorem granted_granted (stars earlier : Nat) (held : Badges) :
    granted stars (granted earlier held) = granted (max stars earlier) held := by
  refine Badges.ext_mem fun b => ?_
  simp only [mem_granted]
  by_cases hheld : b ∈ held
  · simp [hheld]
  · simp only [hheld, false_or]
    omega

/-- No two badges take the same count of stars. -/
theorem countP_threshold_le_one (stars : Nat) :
    all.countP (fun b => b.threshold = stars) ≤ 1 := by
  have hnodup : (all.map threshold).Nodup := by decide
  have hcount := List.nodup_iff_count_le_one.mp hnodup stars
  rw [List.count_eq_countP, List.countP_map] at hcount
  exact hcount

end Badge

namespace Progress

/-- Badges to be granted are those that the stars suffice for and that are not held. -/
theorem mem_eligible {p : Progress} {b : Badge} :
    b ∈ p.eligible ↔ b.threshold ≤ p.stars ∧ b ∉ p.badges := by
  simp [eligible, Badge.mem_all]

theorem unlock_eq (p : Progress) :
    p.unlock = (p.eligible, { p with badges := Badge.granted p.stars p.badges }) := by
  have hbadges : Badges.ofList (p.badges.toList ++ p.eligible) =
      Badge.granted p.stars p.badges := by
    refine Badges.ext_mem fun b => ?_
    rw [Badges.mem_ofList, List.mem_append, Badges.mem_toList, mem_eligible, Badge.mem_granted]
    by_cases hheld : b ∈ p.badges <;> simp [hheld]
  rw [unlock, hbadges]

theorem addStars_eq (p : Progress) (n : Nat) :
    p.addStars n = (eligible { p with stars := min (p.stars + n) maxStars },
      ⟨min (p.stars + n) maxStars, Badge.granted (min (p.stars + n) maxStars) p.badges⟩) :=
  unlock_eq _

/-- Progress that has every badge its stars suffice for, and no more stars than are counted. -/
structure Settled (p : Progress) : Prop where
  badges_eq : p.badges = Badge.granted p.stars p.badges
  stars_le : p.stars ≤ maxStars

theorem settled_new : Settled new where
  badges_eq := by decide
  stars_le := by decide

theorem Settled.mem_badges {p : Progress} (h : p.Settled) {b : Badge}
    (hreached : b.threshold ≤ p.stars) : b ∈ p.badges := by
  rw [h.badges_eq]
  exact Badge.mem_granted.mpr (.inr hreached)

/-- Where nothing is missing there is nothing to grant. -/
theorem Settled.eligible_eq {p : Progress} (h : p.Settled) : p.eligible = [] := by
  refine List.eq_nil_iff_forall_not_mem.mpr fun b hb => ?_
  obtain ⟨hreached, hnew⟩ := mem_eligible.mp hb
  exact hnew (h.mem_badges hreached)

/-- Once badges are granted, none is missing. -/
theorem settled_granted {stars : Nat} (h : stars ≤ maxStars) (held : Badges) :
    Settled ⟨stars, Badge.granted stars held⟩ where
  badges_eq := by rw [Badge.granted_granted, Nat.max_self]
  stars_le := h

theorem Settled.addStars (p : Progress) (n : Nat) : (p.addStars n).2.Settled := by
  rw [addStars_eq]
  exact settled_granted (Nat.min_le_right _ _) _

/-- The badges that stars bring are those held after that were not held before. -/
theorem mem_addStars_iff {p : Progress} {n : Nat} {b : Badge} :
    b ∈ (p.addStars n).1 ↔ b ∉ p.badges ∧ b ∈ (p.addStars n).2.badges := by
  rw [addStars_eq, mem_eligible, Badge.mem_granted]
  by_cases hheld : b ∈ p.badges <;> simp [hheld]

theorem nodup_addStars (p : Progress) (n : Nat) : (p.addStars n).1.Nodup := by
  rw [addStars_eq]
  exact List.Nodup.filter _ (by decide)

/-- All badges below the count are held, so one star more brings the badge of the next count, if
    there is one. -/
theorem Settled.length_addStars_one {p : Progress} (h : p.Settled) : (p.addStars 1).1.length ≤ 1 := by
  rw [addStars_eq, eligible, ← List.countP_eq_length_filter]
  refine Nat.le_trans (List.countP_mono_left fun b _ hnew => ?_)
    (Badge.countP_threshold_le_one (p.stars + 1))
  simp only [Bool.and_eq_true, decide_eq_true_eq, Bool.not_eq_true',
    Badges.contains_eq_false_iff] at hnew
  obtain ⟨hreached, hnew⟩ := hnew
  have hbefore : ¬ b.threshold ≤ p.stars := mt h.mem_badges hnew
  rw [decide_eq_true_eq]
  omega

/-- Stars that come one after the other bring what they bring together. -/
theorem Settled.iterate_addStars {p : Progress} (h : p.Settled) (n k : Nat) :
    (fun p => (p.addStars n).2)^[k] p =
      ⟨min (p.stars + k * n) maxStars,
        Badge.granted (min (p.stars + k * n) maxStars) p.badges⟩ := by
  induction k with
  | zero =>
    rw [Nat.zero_mul, Nat.add_zero, Nat.min_eq_left h.stars_le, ← h.badges_eq]
    rfl
  | succ k ih =>
    have hstars : min (min (p.stars + k * n) maxStars + n) maxStars =
        min (p.stars + (k + 1) * n) maxStars := by
      rw [Nat.succ_mul]
      omega
    have hgrown : min (p.stars + k * n) maxStars ≤ min (p.stars + (k + 1) * n) maxStars := by
      omega
    rw [Function.iterate_succ_apply', ih, addStars_eq]
    simp only [hstars, Badge.granted_granted, Nat.max_eq_left hgrown]

end Progress

end Quizmaster
