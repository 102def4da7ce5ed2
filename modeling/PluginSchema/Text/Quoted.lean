import PluginSchema.Text.Hidden

/-!
# Quoted texts in messages

Messages show a text in quotes such that a reader sees each of its characters: quotes,
backslashes and line ends are named by a letter, and hidden characters by their code point.
-/

namespace PluginSchema.Text

/-- A character as it stands in a quoted text. -/
def shown (c : Char) : List Char :=
  if c = '"' then ['\\', '"']
  else if c = '\\' then ['\\', '\\']
  else if c = '\n' then ['\\', 'n']
  else if c = '\r' then ['\\', 'r']
  else if c = '\t' then ['\\', 't']
  else if c = '\x00' then ['\\', '0']
  else if ' ' ≤ c ∧ c ≤ '~' then [c]
  else if isHidden c then ['\\', 'u', '{'] ++ Nat.toDigits 16 c.toNat ++ ['}']
  else [c]

/-- A text in quotes. -/
def quoted (text : String) : String :=
  String.ofList ('"' :: (text.toList.flatMap shown ++ ['"']))

end PluginSchema.Text
