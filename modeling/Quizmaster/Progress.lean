import Quizmaster.Json.Printer
import Quizmaster.Json.Reader
import Quizmaster.Store
import Quizmaster.Text.Blank
import Quizmaster.Text.Pieces

namespace Quizmaster

/-- Badges, each for a number of stars. -/
inductive Badge
  | bronze
  | silver
  | gold
  | platinum
  | diamond
deriving DecidableEq, Repr

namespace Badge

/-- All badges, by the stars that they take. -/
def all : List Badge := [bronze, silver, gold, platinum, diamond]

/-- The stars that a badge takes. -/
def threshold : Badge → Nat
  | .bronze => 5
  | .silver => 10
  | .gold => 25
  | .platinum => 50
  | .diamond => 100

/-- The name in which a badge is saved. -/
def name : Badge → String
  | .bronze => "bronze"
  | .silver => "silver"
  | .gold => "gold"
  | .platinum => "platinum"
  | .diamond => "diamond"

/-- The name in which a badge is shown. -/
def title : Badge → String
  | .bronze => "Bronze"
  | .silver => "Silver"
  | .gold => "Gold"
  | .platinum => "Platinum"
  | .diamond => "Diamond"

def ofName? (s : String) : Option Badge := all.find? fun b => b.name == s

def ofWritten? (w : Json.Written) : Option Badge := w.caseName?.bind ofName?

end Badge

/-- A set of badges, listed by the stars that they take. -/
@[ext] structure Badges where
  toList : List Badge
  sublist : toList.Sublist Badge.all
deriving DecidableEq, Repr

namespace Badges

/-- The badges that a test holds of. -/
def of (p : Badge → Bool) : Badges := ⟨Badge.all.filter p, List.filter_sublist⟩

def ofList (badges : List Badge) : Badges := of badges.contains

def contains (badges : Badges) (b : Badge) : Bool := badges.toList.contains b

instance : EmptyCollection Badges := ⟨⟨[], List.nil_sublist _⟩⟩

instance : Membership Badge Badges := ⟨fun badges b => b ∈ badges.toList⟩

instance : HasSubset Badges := ⟨fun badges others => ∀ ⦃b⦄, b ∈ badges → b ∈ others⟩

instance : CoeOut Badges (List Badge) := ⟨toList⟩

instance (b : Badge) (badges : Badges) : Decidable (b ∈ badges) :=
  inferInstanceAs (Decidable (b ∈ badges.toList))

end Badges

namespace Badge

/-- The text in which badges are saved. -/
def encodeAll (badges : Badges) : String :=
  (Json.array (badges.toList.map fun b => .string b.name)).compact

/-- Reads saved badges, in any order and more than once. -/
def decodeAll? (s : String) : Option Badges :=
  (Json.read? s).bind fun w => (w.list? ofWritten?).map .ofList

end Badge

/-- Stars and the badges held. A star is earned by a right answer, a badge by a number of stars; a
    badge once held is kept until progress is reset. -/
structure Progress where
  stars : Nat
  badges : Badges
deriving DecidableEq, Repr

namespace Progress

/-- Stars beyond this count are not counted. -/
def maxStars : Nat := Nat.pow 2 32 - 1

def new : Progress := ⟨0, ∅⟩

/-- The first badge that is not held, and the stars missing for it. -/
def next? (p : Progress) : Option (Badge × Nat) :=
  (Badge.all.find? fun b => !p.badges.contains b).map fun b => (b, b.threshold - p.stars)

/-- The badges that the stars suffice for and that are not held. -/
def eligible (p : Progress) : List Badge :=
  Badge.all.filter fun b => b.threshold ≤ p.stars && !p.badges.contains b

/-- Takes every badge that the stars suffice for, and names the new ones. -/
def unlock (p : Progress) : List Badge × Progress :=
  (p.eligible, { p with badges := .ofList (p.badges.toList ++ p.eligible) })

/-- Adds stars, and names the badges that they bring. -/
def addStars (p : Progress) (n : Nat) : List Badge × Progress :=
  unlock { p with stars := min (p.stars + n) maxStars }

/-- The count that a saved text gives; a text that is no count gives none. -/
def decodeStars (saved : Option String) : Nat :=
  (saved.bind fun s => Text.natural? maxStars (Text.trimChars s.toList)).getD 0

section

variable {ε σ : Type} [Store ε σ]

/-- Saves the stars and then the badges. -/
def save (p : Progress) : ExceptT ε (StateM σ) Unit := do
  Store.set Store.starsKey (toString p.stars)
  Store.set Store.badgesKey (Badge.encodeAll p.badges)

/-- The saved badges. A text that is none is removed. -/
def loadBadges : ExceptT ε (StateM σ) Badges := do
  match ← Store.get Store.badgesKey with
  | none => return ∅
  | some saved =>
    match Badge.decodeAll? saved with
    | some badges => return badges
    | none =>
      Store.remove Store.badgesKey
      return ∅

/-- The saved progress. Badges that the saved stars suffice for are taken, and saved if that
    brings new ones. -/
def load : ExceptT ε (StateM σ) Progress := do
  let stars := decodeStars (← Store.get Store.starsKey)
  let badges ← loadBadges
  let (unlocked, p) := unlock ⟨stars, badges⟩
  if unlocked ≠ [] then save p
  return p

end

end Progress

end Quizmaster
