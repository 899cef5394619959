import Quizmaster.Text.PrintTable

namespace Quizmaster.Text

/-- Whether a character cannot be shown by itself. -/
def isHidden (c : Char) : Bool :=
  PrintTable.extending.covers c || PrintTable.fillers.covers c || PrintTable.unprintable.covers c

/-- Characters without a glyph of their own are written by their code point in hexadecimal. -/
def escapeHidden (c : Char) : List Char :=
  "\\u\x7b".toList ++ Nat.toDigits 16 c.toNat ++ ['}']

def escapeChar (c : Char) : List Char :=
  if c = '\x00' then ['\\', '0']
  else if c = '\t' then ['\\', 't']
  else if c = '\r' then ['\\', 'r']
  else if c = '\n' then ['\\', 'n']
  else if c = '"' then ['\\', '"']
  else if c = '\\' then ['\\', '\\']
  else if isHidden c then escapeHidden c
  else [c]

/-- The text between quotation marks; marks and backslashes inside are escaped. -/
def quoted (s : String) : String :=
  "\"" ++ String.ofList (s.toList.flatMap escapeChar) ++ "\""

end Quizmaster.Text
