import PluginSchema.Log.Pattern.Basic
import PluginSchema.Text.Space

/-!
# Characters of patterns

A character stands for itself, or a backslash gives what follows another meaning. Where a pattern
is spaced, blanks and comments may stand between its signs; a comment begins with a number sign
and ends with the line.
-/

namespace PluginSchema.Log.Pattern

/-- The text without the blanks and comments that it begins with, where a comment may be open. -/
def skipSpacing : Bool → List Char → List Char
  | _, [] => []
  | true, c :: rest => skipSpacing (c ≠ '\n') rest
  | false, c :: rest =>
    if Text.isSpace c then skipSpacing false rest
    else if c = '#' then skipSpacing true rest
    else c :: rest

/-- The text at its next sign. -/
def atSign (spaced : Bool) (text : List Char) : List Char :=
  if spaced then skipSpacing false text else text

/-- The next sign of a text, for a look ahead in which only the number sign itself belongs to a
comment. -/
def signAhead? (spaced : Bool) (text : List Char) : Option Char :=
  if spaced then
    match text.filter (!Text.isSpace ·) with
    | '#' :: others => others.head?
    | others => others.head?
  else text.head?

/-- What a backslash and the signs behind it stand for. -/
inductive Escape where
  | literal (character : Literal)
  /-- The digits, the spaces or the characters of words, or all but these. -/
  | kind (negated : Bool)
  | place (ofWord : Bool)

/-- The value of a hexadecimal digit. -/
def hexDigit? (c : Char) : Option Nat :=
  if c.isDigit then some (c.toNat - '0'.toNat)
  else if 'a' ≤ c.toLower ∧ c.toLower ≤ 'f' then some (c.toLower.toNat - 'a'.toNat + 10)
  else none

/-- Read a number of hexadecimal digits behind those that are read already. -/
def hexDigits? (spaced : Bool) : Nat → Nat → List Char → Option (Nat × List Char)
  | 0, value, text => some (value, atSign spaced text)
  | count + 1, value, text =>
    match atSign spaced text with
    | [] => none
    | c :: rest => do hexDigits? spaced count (16 * value + (← hexDigit? c)) rest

/-- Read the character that a number of hexadecimal digits stand for. -/
def hexEscape? (spaced : Bool) (count : Nat) (text : List Char) :
    Option (Escape × List Char) := do
  let (code, rest) ← hexDigits? spaced count 0 text
  if code.isValidChar then some (.literal ⟨code, count = 2⟩, rest) else none

/-- The characters that a letter behind a backslash stands for. -/
def controls : List (Char × Nat) :=
  [('a', 0x7), ('f', 0xc), ('t', 0x9), ('n', 0xa), ('r', 0xd), ('v', 0xb)]

/-- Read what follows a backslash. Properties of characters are not known. -/
def escape? (spaced : Bool) : List Char → Option (Escape × List Char)
  | [] => none
  | c :: rest =>
    if c = 'x' then hexEscape? spaced 2 rest
    else if c = 'u' then hexEscape? spaced 4 rest
    else if c = 'U' then hexEscape? spaced 8 rest
    else if ['d', 's', 'w'].contains c then some (.kind false, rest)
    else if ['D', 'S', 'W'].contains c then some (.kind true, rest)
    else if ['b', 'B', '<', '>'].contains c then some (.place true, rest)
    else if ['A', 'z'].contains c then some (.place false, rest)
    else
      match controls.lookup c with
      | some code => some (.literal ⟨code, false⟩, rest)
      | none =>
        if c.toNat < 0x80 && !c.isAlphanum then some (.literal ⟨c.toNat, false⟩, rest) else none

end PluginSchema.Log.Pattern
