import Quizmaster.Session

namespace Quizmaster

/-- An order to put lists into. Nothing more is asked of it than to lose and repeat nothing. -/
structure Shuffle where
  order : List Question → List Question
  perm : ∀ qs, (order qs).Perm qs

namespace Shuffle

/-- The order that the list already has. -/
def keep : Shuffle := ⟨id, fun _ => .refl _⟩

/-- The order of the keys that positions have; positions of equal keys keep their order. -/
def byKey (key : Nat → Nat) : Shuffle where
  order qs := (qs.zipIdx.mergeSort fun x y => key x.2 ≤ key y.2).map Prod.fst
  perm qs := by
    have h := (List.mergeSort_perm qs.zipIdx fun x y => decide (key x.2 ≤ key y.2)).map Prod.fst
    simpa using h

/-- Scatters a word, so that neighbours land far apart. -/
def scatter (x : UInt64) : UInt64 :=
  let x := (x ^^^ (x >>> 30)) * 0xbf58476d1ce4e5b9
  let x := (x ^^^ (x >>> 27)) * 0x94d049bb133111eb
  x ^^^ (x >>> 31)

/-- An order that a seed determines, without a pattern that one could see. -/
def seeded (seed : Nat) : Shuffle :=
  byKey fun position =>
    (scatter (UInt64.ofNat seed + UInt64.ofNat (position + 1) * 0x9e3779b97f4a7c15)).toNat

/-- Draws a number of questions from a pool that holds at least as many, and at least one. -/
def draw (shuffle : Shuffle) (pool : List Question) (count : Nat) :
    Except Session.Refusal (List Question) :=
  if pool = [] ∨ pool.length < count then .error (.insufficientPool pool.length count)
  else .ok ((shuffle.order pool).take count)

end Shuffle

end Quizmaster
