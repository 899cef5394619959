import Quizmaster.Text.CaseTable

namespace Quizmaster.Text

/-- The lower-case partner of a character that has a single one, otherwise the character. -/
def lowerChar (c : Char) : Char :=
  let n := c.toNat
  match CaseTable.lowered.find? fun (first, last, step, _) =>
      first ≤ n && n ≤ last && (n - first) % step == 0 with
  | some (_, _, _, shift) => Char.ofNat (n + shift).toNat
  | none => c

/-- Whether a letter follows once the characters that words contain but do not end at are
    passed over. -/
def meetsLetter (cs : List Char) : Bool :=
  (cs.dropWhile CaseTable.ignorable.covers).head?.any CaseTable.cased.covers

/-- Lower-cases a text whose characters `before`, nearest first, come before it: a sigma between
    a letter and no letter is at a word's end. -/
def lowerAfter (before : List Char) : List Char → List Char
  | [] => []
  | c :: rest =>
    let lowered :=
      if c = 'Σ' then [if meetsLetter before && !meetsLetter rest then 'ς' else 'σ']
      else if c = 'İ' then ['i', '\u0307']
      else [lowerChar c]
    lowered ++ lowerAfter (c :: before) rest

/-- Lower-casing after Unicode: each capital becomes its lower-case partner, and a capital sigma
    takes its final form at the end of a word. -/
def lowercase (s : String) : String :=
  String.ofList (lowerAfter [] s.toList)

end Quizmaster.Text
