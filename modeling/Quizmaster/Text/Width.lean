import Quizmaster.Text.Ligature

namespace Quizmaster.Text

/-- The columns of a character that stands alone. -/
def charWidth (c : Char) : Nat :=
  if WidthTable.zero.covers c then 0
  else if WidthTable.wide.covers c then 2
  else if c = WidthTable.beyyal then 3
  else 1

/-- A character that chooses how the one before it is shown. -/
inductive Selector
  | emoji
  | text
  /-- Shows a quotation mark as wide as an ideograph. -/
  | fullwidth
  deriving DecidableEq

def Selector.ofChar? (c : Char) : Option Selector :=
  if c = '\ufe0f' then some .emoji
  else if c = '\ufe0e' then some .text
  else if c = '\ufe01' then some .fullwidth
  else none

/-- What a character finds after it. -/
inductive Follower
  /-- Nothing that it could join. -/
  | plain
  | lineFeed
  | selector (s : Selector)
  /-- A letter that may merge, bound by a joiner or not. -/
  | letter (l : Ligature) (bound : Bool) (selector : Option Selector)
  | emoji
  | tone
  /-- Letters of flags, bound by a joiner after them or not. -/
  | regions (bound : Bool) (count : Nat)
  /-- A joiner and an emoji, and between this character and them a frame of a key or a selector. -/
  | joined (key selected : Bool)
  /-- The end of a region's name: its last letters, or its last digits. -/
  | tag (letters digits : Nat)
  /-- The Kirat Rai vowel sign E. -/
  | vowelE
  /-- The Kirat Rai vowel sign Ai. -/
  | vowelAi

namespace Follower

/-- What a character is to the one before it, whatever comes after. -/
def ofChar (c : Char) : Follower :=
  if c = '\n' then .lineFeed
  else if Emoji.isTone c then .tone
  else if Emoji.isRegional c then .regions false 1
  else if Emoji.presented.covers c then .emoji
  else if c.toNat = 0x16D67 then .vowelE
  else if c.toNat = 0x16D68 then .vowelAi
  else match Ligature.ofChar? c with
    | some l => .letter l false none
    | none => .plain

/-- The selector that the next character meets first. -/
def pending : Follower → Option Selector
  | .selector s => some s
  | .letter _ _ s => s
  | .joined _ true => some .emoji
  | _ => none

def isJoined : Follower → Bool
  | .joined _ _ => true
  | _ => false

/-- A selector hides what follows, unless that is a letter or, before the emoji selector, a joined
    emoji. -/
def select (s : Selector) : Follower → Follower
  | .letter l bound _ => .letter l bound (some s)
  | .joined key false => if s = .emoji then .joined key true else .selector s
  | _ => .selector s

/-- What remains after a selector that the character did not heed. -/
def unselect : Follower → Follower
  | .selector _ => .plain
  | .letter l bound _ => .letter l bound none
  | .joined _ true => .plain
  | follower => follower

/-- The columns of a character that heeds the selector after it, and what it is to the one before
    it. -/
def heed? (follower : Follower) (c : Char) : Option (Int × Follower) :=
  match follower.pending with
  | some .emoji =>
    if Emoji.selectable.covers c then some (if follower.isJoined then 0 else 2, .emoji) else none
  | some .text => if Emoji.isNarrowed c then some (1, .plain) else none
  | some .fullwidth =>
    if ['\u2018', '\u2019', '\u201c', '\u201d'].contains c then some (2, .plain) else none
  | none => none

/-- The next tag before the end of a region's name. Letters and digits do not mix, and a name has
    three digits or three to six letters. -/
def tag? (letters digits : Nat) (c : Char) : Option (Int × Follower) :=
  if Emoji.isTagLetter c && digits = 0 && letters < 6 then some (0, .tag (letters + 1) 0)
  else if Emoji.isTagDigit c && digits < 3 && letters ≤ 4 then some (0, .tag 0 (digits + 1))
  else if c = Emoji.blackFlag && (digits = 3 || 3 ≤ letters) then some (0, .emoji)
  else none

/-- The columns that a character adds to what it joins, and what the two are to the one before. A
    pair of letters is one flag, and a joined flag takes no columns of its own. -/
def join? (follower : Follower) (c : Char) : Option (Int × Follower) :=
  match follower with
  | .lineFeed => if c = '\r' then some (0, .plain) else none
  | .letter l bound _ =>
    (l.merge? bound c).map fun
      | .goesOn columns l bound => (columns, .letter l bound none)
      | .done columns => (columns, .plain)
  | .emoji => if c = Emoji.joiner then some (0, .joined false false) else none
  | .tone =>
    if c = Emoji.joiner then some (0, .joined false false)
    else if Emoji.toned.covers c then some (0, .emoji)
    else none
  | .regions bound count =>
    if Emoji.isRegional c then
      some (if !bound then 1 else if count % 2 = 1 then -1 else 3, .regions bound (count + 1))
    else if c = Emoji.joiner && 2 ≤ count then some (0, .joined false false)
    else none
  | .joined false _ =>
    if c = Emoji.keycap then some (0, .joined true false)
    else if c = Emoji.tagEnd then some (0, .tag 0 0)
    else if Emoji.isRegional c then some (1, .regions true 1)
    else if Emoji.isTone c then some (0, .tone)
    else if Emoji.presented.covers c then some (0, .emoji)
    else none
  | .tag letters digits => tag? letters digits c
  | .vowelE =>
    if c.toNat = 0x16D63 || c.toNat = 0x16D69 then some (0, .plain)
    else if c.toNat = 0x16D67 then some (0, .vowelAi)
    else if c.toNat = 0x16D68 then some (1, .vowelE)
    else none
  | .vowelAi => if c.toNat = 0x16D63 then some (0, .plain) else none
  | _ => none

/-- The columns that a character adds to the text after it, and what that text begins with then. -/
def before (follower : Follower) (c : Char) : Int × Follower :=
  match follower.heed? c with
  | some step => step
  | none =>
    let follower := follower.unselect
    match Selector.ofChar? c with
    | some s => (0, follower.select s)
    | none => (follower.join? c).getD (charWidth c, ofChar c)

end Follower

/-- How many columns a text takes on a character grid. It is read from its end, since what a
    character takes depends on the characters after it. An emoji of several characters takes two
    columns. -/
def width (s : String) : Nat :=
  (s.toList.foldr
    (fun c (columns, follower) =>
      let (added, follower) := follower.before c
      (columns + added, follower))
    ((0 : Int), Follower.plain)).1.toNat

end Quizmaster.Text
