namespace Quizmaster.Text

/-- Pairs of first and last code points. -/
abbrev Ranges := Array (Nat × Nat)

/-- Whether one of the ranges covers the character; both ends belong to a range. -/
def Ranges.covers (ranges : Ranges) (c : Char) : Bool :=
  ranges.any fun (first, last) => first ≤ c.toNat && c.toNat ≤ last

end Quizmaster.Text
