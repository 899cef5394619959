import Mathlib.Algebra.Ring.Nat
import Quizmaster.Proofs.Progress.Saved

namespace Quizmaster

/-- A list in which all that `p` holds of comes first is that part followed by the rest. -/
theorem filter_append_filter_not {α : Type} {p : α → Bool} {as : List α}
    (h : as.Pairwise fun a b => p b = true → p a = true) :
    as.filter p ++ as.filter (fun a => !p a) = as := by
  induction as with
  | nil => rfl
  | cons a as ih =>
    obtain ⟨hfirst, hrest⟩ := List.pairwise_cons.mp h
    cases ha : p a with
    | true =>
      rw [List.filter_cons_of_pos ha, List.filter_cons_of_neg (by simp [ha]), List.cons_append,
        ih hrest]
    | false =>
      have hnone : ∀ b ∈ as, ¬ p b = true := by
        intro b hb htrue
        exact Bool.false_ne_true (ha.symm.trans (hfirst b hb htrue))
      have hall : ∀ b ∈ as, (!p b) = true := by
        intro b hb
        simpa using hnone b hb
      rw [List.filter_cons_of_neg (by simp [ha]), List.filter_cons_of_pos (by simp [ha]),
        List.filter_eq_nil_iff.mpr hnone, List.filter_eq_self.mpr hall, List.nil_append]

namespace Badge

theorem threshold_injective {b c : Badge} (h : b.threshold = c.threshold) : b = c := by
  cases b <;> cases c <;> first | rfl | exact absurd h (by decide)

/-- Every badge can be reached. -/
theorem threshold_le_maxStars (b : Badge) : b.threshold ≤ Progress.maxStars := by
  cases b <;> decide

end Badge

namespace Progress

section

variable {ε σ : Type} [Store ε σ]

/-- A call that changes progress. -/
inductive Op (σ : Type)
  | addStars (n : Nat)
  | unlock
  | reset
  /-- Takes the progress that a store holds. -/
  | load (store : σ)

/-- Progress after a call. Loading may fail, and then progress is what it was. -/
def perform (p : Progress) : Op σ → Progress
  | .addStars n => (p.addStars n).2
  | .unlock => p.unlock.2
  | .reset => new
  | .load store =>
    match (load.run.run store).1 with
    | .ok loaded => loaded
    | .error _ => p

def run (p : Progress) (ops : List (Op σ)) : Progress := ops.foldl perform p

theorem Settled.perform {p : Progress} (h : p.Settled) (op : Op σ) : (p.perform op).Settled := by
  cases op with
  | addStars n => exact .addStars p n
  | unlock =>
    rw [Progress.perform, unlock_eq]
    exact settled_granted h.stars_le p.badges
  | reset => exact settled_new
  | load store =>
    rw [Progress.perform]
    split
    · next hload => exact settled_of_load_ok (Prod.ext hload rfl)
    · exact h

theorem Settled.run {p : Progress} (h : p.Settled) (ops : List (Op σ)) : (p.run ops).Settled := by
  induction ops generalizing p with
  | nil => exact h
  | cons op ops ih => exact ih (h.perform op)

end

/-- The badges that fewer stars bring come before those that the others add to them. -/
theorem eligible_append {fewer more : Nat} (h : fewer ≤ more) (held : Badges) :
    eligible ⟨fewer, held⟩ ++ eligible ⟨more, Badge.granted fewer held⟩ = eligible ⟨more, held⟩ := by
  have hsorted : (eligible ⟨more, held⟩).Pairwise fun b c =>
      decide (c.threshold ≤ fewer) = true → decide (b.threshold ≤ fewer) = true := by
    refine (Badge.pairwise_threshold.imp ?_).filter _
    intro b c hlt
    simp only [decide_eq_true_eq]
    omega
  have hfirst : eligible ⟨fewer, held⟩ =
      (eligible ⟨more, held⟩).filter fun b => decide (b.threshold ≤ fewer) := by
    rw [eligible, eligible, List.filter_filter]
    refine List.filter_congr fun b _ => ?_
    rw [Bool.eq_iff_iff]
    simp only [Bool.and_eq_true, decide_eq_true_eq]
    exact ⟨fun hb => ⟨hb.1, hb.1.trans h, hb.2⟩, fun hb => ⟨hb.1, hb.2.2⟩⟩
  have hsecond : eligible ⟨more, Badge.granted fewer held⟩ =
      (eligible ⟨more, held⟩).filter fun b => !decide (b.threshold ≤ fewer) := by
    rw [eligible, eligible, List.filter_filter]
    refine List.filter_congr fun b _ => ?_
    rw [Bool.eq_iff_iff]
    simp only [Bool.and_eq_true, decide_eq_true_eq, Bool.not_eq_true', decide_eq_false_iff_not,
      Badges.contains_eq_false_iff, Badge.mem_granted, not_or]
    exact ⟨fun hb => ⟨hb.2.2, hb.1, hb.2.1⟩, fun hb => ⟨hb.2.1, hb.2.2, hb.1⟩⟩
  rw [hfirst, hsecond]
  exact filter_append_filter_not hsorted

/-- Two gains bring what their sum brings. -/
theorem addStars_addStars (p : Progress) (a b : Nat) :
    p.addStars (min (a + b) maxStars) =
      ((p.addStars a).1 ++ ((p.addStars a).2.addStars b).1, ((p.addStars a).2.addStars b).2) := by
  have hstars : min (p.stars + min (a + b) maxStars) maxStars =
      min (min (p.stars + a) maxStars + b) maxStars := by
    omega
  have hgrown : min (p.stars + a) maxStars ≤ min (min (p.stars + a) maxStars + b) maxStars := by
    omega
  simp only [addStars_eq, hstars, eligible_append hgrown, Badge.granted_granted,
    Nat.max_eq_left hgrown]

/-- Gains one after the other: the badges that they bring, in order, and the progress in the end. -/
def addEach (p : Progress) : List Nat → List Badge × Progress
  | [] => ([], p)
  | n :: rest =>
    let (badges, grown) := p.addStars n
    let (later, last) := grown.addEach rest
    (badges ++ later, last)

theorem Settled.addStars_zero {p : Progress} (h : p.Settled) : p.addStars 0 = ([], p) := by
  rw [addStars_eq, Nat.add_zero, Nat.min_eq_left h.stars_le, ← h.badges_eq]
  exact Prod.ext h.eligible_eq rfl

/-- Gains one after the other are one gain of their sum, up to the largest count. -/
theorem Settled.addEach_eq {p : Progress} (h : p.Settled) (gains : List Nat) :
    p.addEach gains = p.addStars (min gains.sum maxStars) := by
  induction gains generalizing p with
  | nil => exact h.addStars_zero.symm
  | cons n rest ih =>
    have hsum : min (n :: rest).sum maxStars = min (n + min rest.sum maxStars) maxStars := by
      rw [List.sum_cons]
      omega
    rw [hsum, addStars_addStars, ← ih (.addStars p n)]
    rfl

/-- The next badge takes no more stars than any other that is missing. -/
theorem of_next?_eq_some {p : Progress} {b : Badge} {missing : Nat}
    (h : p.next? = some (b, missing)) :
    b ∉ p.badges ∧ (∀ c, c ∉ p.badges → b.threshold ≤ c.threshold) ∧
      missing = b.threshold - p.stars := by
  obtain ⟨found, hfound, hpair⟩ := Option.map_eq_some_iff.mp h
  obtain ⟨rfl, rfl⟩ := Prod.mk.inj hpair
  obtain ⟨hnew, before, after, hall, hheld⟩ := List.find?_eq_some_iff_append.mp hfound
  refine ⟨by simpa using hnew, fun c hc => ?_, rfl⟩
  have hsorted := Badge.pairwise_threshold
  have hmem := Badge.mem_all c
  rw [hall] at hsorted hmem
  rcases List.mem_append.mp hmem with hbefore | hrest
  · have hcontra := hheld c hbefore
    simp [hc] at hcontra
  · rcases List.mem_cons.mp hrest with rfl | hafter
    · exact le_rfl
    · have hbeyond := List.pairwise_cons.mp (List.pairwise_append.mp hsorted).2.1
      exact (hbeyond.1 c hafter).le

/-- Nothing comes next exactly if all badges are held. -/
theorem next?_eq_none_iff {p : Progress} : p.next? = none ↔ ∀ b, b ∈ p.badges := by
  rw [next?, Option.map_eq_none_iff, List.find?_eq_none]
  simp [Badge.mem_all]

section

variable {p : Progress} {b : Badge} {missing : Nat}

/-- The stars do not suffice for a badge that is not held. -/
theorem Settled.stars_lt_threshold (h : p.Settled) (hnew : b ∉ p.badges) :
    p.stars < b.threshold := by
  by_contra hreached
  exact hnew (h.mem_badges (Nat.le_of_not_lt hreached))

/-- Fewer stars than are missing for the next badge bring none. -/
theorem addStars_of_lt_missing (hnext : p.next? = some (b, missing)) {k : Nat}
    (hk : k < missing) : (p.addStars k).1 = [] := by
  obtain ⟨hnew, hleast, rfl⟩ := of_next?_eq_some hnext
  rw [addStars_eq]
  apply List.eq_nil_iff_forall_not_mem.mpr
  intro c hc
  obtain ⟨hreached, hnew⟩ := mem_eligible.mp hc
  have hbeyond := hleast c hnew
  dsimp only at hreached
  omega

/-- The stars that are missing for the next badge bring it, and no other. -/
theorem Settled.addStars_missing (h : p.Settled) (hnext : p.next? = some (b, missing)) :
    (p.addStars missing).1 = [b] := by
  obtain ⟨hnew, hleast, rfl⟩ := of_next?_eq_some hnext
  have hlt := h.stars_lt_threshold hnew
  have hmax := Badge.threshold_le_maxStars b
  have hstars : min (p.stars + (b.threshold - p.stars)) maxStars = b.threshold := by omega
  apply List.perm_singleton.mp
  apply (List.perm_ext_iff_of_nodup (nodup_addStars p _) (List.nodup_singleton b)).mpr
  intro c
  rw [mem_addStars_iff, addStars_eq, hstars, Badge.mem_granted, List.mem_singleton]
  constructor
  · rintro ⟨hc, hheld | hreached⟩
    · exact absurd hheld hc
    · exact Badge.threshold_injective (Nat.le_antisymm hreached (hleast c hc))
  · rintro rfl
    exact ⟨hnew, .inr le_rfl⟩

end

/-- How progress gains from here on. -/
structure Gains (p : Progress) : Prop where
  /-- Two gains are as good as one of their sum. -/
  split : ∀ a b, p.addStars (min (a + b) maxStars) =
    ((p.addStars a).1 ++ ((p.addStars a).2.addStars b).1, ((p.addStars a).2.addStars b).2)
  /-- So are any number of gains. -/
  parts : ∀ gains, p.addEach gains = p.addStars (min gains.sum maxStars)
  /-- The next badge comes with the stars that are missing for it, and none comes before. -/
  next : ∀ b missing, p.next? = some (b, missing) → 1 ≤ missing ∧
    (∀ k, k < missing → (p.addStars k).1 = [] ∧ (p.addStars k).2.badges ⊆ p.badges) ∧
    (p.addStars missing).1 = [b] ∧ b ∈ (p.addStars missing).2.badges
  complete : p.next? = none → ∀ b, b ∈ p.badges

/-- The laws of gains hold wherever nothing is missing. -/
theorem Settled.gains {p : Progress} (h : p.Settled) : p.Gains where
  split := addStars_addStars p
  parts := h.addEach_eq
  next := by
    intro b missing hnext
    have hbrought := h.addStars_missing hnext
    have hheld : b ∈ (p.addStars missing).2.badges := by
      apply (mem_addStars_iff.mp _).2
      rw [hbrought]
      exact List.mem_singleton_self b
    obtain ⟨hnew, -, hmissing⟩ := of_next?_eq_some hnext
    have hlt := h.stars_lt_threshold hnew
    refine ⟨by omega, fun k hk => ?_, hbrought, hheld⟩
    have hnone := addStars_of_lt_missing hnext hk
    refine ⟨hnone, fun c hc => ?_⟩
    by_contra hcnew
    have hmem := mem_addStars_iff.mpr ⟨hcnew, hc⟩
    rw [hnone] at hmem
    exact List.not_mem_nil hmem
  complete := next?_eq_none_iff.mp

/-- Progress gains in this way whatever calls led to it, and whatever the stores held and refused
    that it was loaded from. -/
theorem gains_run {ε σ : Type} [Store ε σ] (ops : List (Op σ)) : (new.run ops).Gains :=
  (settled_new.run ops).gains

/-- Loaded badges may leave gaps: silver is the next badge of one who has gold. -/
example :
    let entries : Store.Entries := .ofList [("badges", "[\"gold\"]"), ("star_count", "7")]
    let p := new.run [.load (Store.Memory.ofEntries entries)]
    p = ⟨7, .ofList [.bronze, .gold]⟩ ∧ p.next? = some (.silver, 3) ∧ (p.addStars 20).1 = [.silver] := by
  decide +kernel

end Progress

end Quizmaster
