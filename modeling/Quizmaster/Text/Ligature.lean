import Quizmaster.Text.Emoji
import Quizmaster.Text.WidthTable

namespace Quizmaster.Text

/-- A letter that may be drawn as one sign with the letter before it. -/
inductive Ligature
  /-- An alef is written into a lam. -/
  | alef
  | lamed
  | ya
  /-- A vowel sign and the letter ya joined after it. -/
  | vowelYa
  | tifinagh
  /-- A Tifinagh letter after the sign that joins two. -/
  | joinedTifinagh
  | lisuTone
  | orkhonI
  /-- A Khmer letter that is written below another one. -/
  | khmer

namespace Ligature

def isAlef (c : Char) : Bool :=
  ['\u0622', '\u0623', '\u0625', '\u0627', '\u0671', '\u0672', '\u0673', '\u0675', '\u0773',
    '\u0774'].contains c || (0x870 ≤ c.toNat && c.toNat ≤ 0x882)

def isLam (c : Char) : Bool :=
  ['\u0644', '\u06b5', '\u06b6', '\u06b7', '\u06b8', '\u076a', '\u08a6', '\u08c7'].contains c

def isTifinagh (c : Char) : Bool := (0x2D31 ≤ c.toNat && c.toNat ≤ 0x2D65) || c = '\u2d6f'

/-- Khmer letters that have a form below another letter. -/
def stacking : Ranges := #[
  (0x1780, 0x1782), (0x1784, 0x1787), (0x1789, 0x178C), (0x178E, 0x1793), (0x1795, 0x1798),
  (0x179B, 0x179D), (0x17A0, 0x17A0), (0x17A2, 0x17A2), (0x17A7, 0x17A7), (0x17AB, 0x17AC),
  (0x17AF, 0x17AF)]

/-- Characters without a column that part the Arabic letters around them. -/
def parting : Ranges := #[
  (0x605, 0x605), (0x890, 0x891), (0x8E2, 0x8E2), (0x9BE, 0x9BE), (0x9D7, 0x9D7), (0xB3E, 0xB3E),
  (0xB57, 0xB57), (0xBBE, 0xBBE), (0xBD7, 0xBD7), (0xCC0, 0xCC0), (0xCC2, 0xCC2), (0xCC7, 0xCC8),
  (0xCCA, 0xCCB), (0xCD5, 0xCD6), (0xD3E, 0xD3E), (0xD4E, 0xD4E), (0xD57, 0xD57), (0xDCF, 0xDCF),
  (0xDDF, 0xDDF), (0x1160, 0x11FF), (0x1715, 0x1715), (0x1734, 0x1734), (0x180E, 0x180E),
  (0x1B35, 0x1B35), (0x1B3B, 0x1B3B), (0x1B3D, 0x1B3D), (0x1B43, 0x1B44), (0x1BAA, 0x1BAA),
  (0x1BF2, 0x1BF3), (0x200C, 0x200D), (0x2065, 0x2069), (0x302E, 0x302F), (0x3164, 0x3164),
  (0xA8FA, 0xA8FA), (0xA953, 0xA953), (0xA9C0, 0xA9C0), (0xD7B0, 0xD7C6), (0xD7CB, 0xD7FB),
  (0xFFA0, 0xFFA0), (0xFFF0, 0xFFF8), (0x111C0, 0x111C0), (0x111C2, 0x111C3), (0x11235, 0x11235),
  (0x1133E, 0x1133E), (0x1134D, 0x1134D), (0x11357, 0x11357), (0x113B8, 0x113B8),
  (0x113C2, 0x113C2), (0x113C5, 0x113C5), (0x113C7, 0x113C9), (0x113CF, 0x113CF),
  (0x113D1, 0x113D1), (0x114B0, 0x114B0), (0x114BD, 0x114BD), (0x115AF, 0x115AF),
  (0x116B6, 0x116B6), (0x11930, 0x11930), (0x1193D, 0x1193D), (0x1193F, 0x1193F),
  (0x11941, 0x11941), (0x11A84, 0x11A89), (0x11D46, 0x11D46), (0x11F02, 0x11F02),
  (0x11F41, 0x11F41), (0x16FF0, 0x16FF1), (0x1D165, 0x1D166), (0x1D16D, 0x1D172),
  (0xE0000, 0xE0000), (0xE0002, 0xE001F), (0xE0080, 0xE00FF), (0xE01F0, 0xE0FFF)]

/-- Marks over which an alef still joins a lam. -/
def isMark (c : Char) : Bool := WidthTable.zero.covers c && !parting.covers c

/-- Characters that say nothing but how another one is drawn. -/
def ignorable : Ranges := #[
  (0x34F, 0x34F), (0x17B4, 0x17B5), (0x180B, 0x180D), (0x180F, 0x180F), (0xFE00, 0xFE0F),
  (0xE0100, 0xE01EF)]

/-- The sign that a letter makes with others. -/
def ofChar? (c : Char) : Option Ligature :=
  if isAlef c then some alef
  else if c = '\u05dc' then some lamed
  else if c = '\u1a10' then some ya
  else if isTifinagh c then some tifinagh
  else if c = '\ua4fc' || c = '\ua4fd' then some lisuTone
  else if c.toNat = 0x10C03 then some orkhonI
  else if stacking.covers c then some khmer
  else none

/-- What a character before the letter makes of the two. -/
inductive Merge
  /-- Another letter that may merge, the columns that are added, and whether a joiner has been
      read. -/
  | goesOn (columns : Int) (letter : Ligature) (bound : Bool)
  /-- The two are one sign, and the columns change by a number. -/
  | done (columns : Int)

/-- Whether the letter waits for the character before another one: an alef does so over marks. -/
def passes : Ligature → Char → Bool
  | alef, c => isMark c
  | _, c => ignorable.covers c

/-- Whether a joiner before the letter joins it. -/
def isJoinable : Ligature → Bool
  | alef => false
  | _ => true

/-- What the letter makes of the one before it; `bound` says that a joiner stands between them. -/
def mergeLetter? (bound : Bool) (c : Char) : Ligature → Option Merge
  | alef => if isLam c then some (.done 0) else none
  | lamed => if bound && c = '\u05d0' then some (.done 0) else none
  | ya => if bound && c = '\u1a17' then some (.goesOn 0 vowelYa true) else none
  | vowelYa => if c = '\u1a15' then some (.done 0) else none
  | tifinagh =>
    if c = '\u2d7f' then some (.goesOn 1 joinedTifinagh true)
    else if bound && isTifinagh c then some (.done 0)
    else none
  | joinedTifinagh => if isTifinagh c then some (.done (-1)) else none
  | lisuTone => if 0xA4F8 ≤ c.toNat && c.toNat ≤ 0xA4FB then some (.done 0) else none
  | orkhonI => if bound && c.toNat = 0x10C32 then some (.done 0) else none
  | khmer => if c = '\u17d2' then some (.done (-1)) else none

/-- The effect of the character before a letter; `bound` says that a joiner has been read. -/
def merge? (letter : Ligature) (bound : Bool) (c : Char) : Option Merge :=
  if letter.isJoinable && c = Emoji.joiner then some (.goesOn 0 letter true)
  else if letter.passes c then some (.goesOn 0 letter bound)
  else letter.mergeLetter? bound c

end Ligature

end Quizmaster.Text
