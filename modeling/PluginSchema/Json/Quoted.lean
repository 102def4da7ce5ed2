import PluginSchema.Json.Scan

/-!
# Quoted strings

Writing escapes the quote, the backslash and control characters, and nothing else. Reading knows
all escapes of JSON. A character beyond the first plane may be written as two escaped halves; a
half without its partner has no value as text, which only a reader that wants the value minds.
-/

namespace PluginSchema.Json

namespace Quoted

/-- The lower-case hexadecimal digit of a value below sixteen. -/
def hexDigit (n : Nat) : Char :=
  if n < 10 then Char.ofNat ('0'.toNat + n) else Char.ofNat ('a'.toNat + n - 10)

/-- A character as it stands in a quoted string. -/
def escape (c : Char) : List Char :=
  if c = '"' then ['\\', '"']
  else if c = '\\' then ['\\', '\\']
  else if c = '\x08' then ['\\', 'b']
  else if c = '\x0c' then ['\\', 'f']
  else if c = '\n' then ['\\', 'n']
  else if c = '\r' then ['\\', 'r']
  else if c = '\t' then ['\\', 't']
  else if c < ' ' then
    ['\\', 'u', '0', '0', hexDigit (c.toNat / 16), hexDigit (c.toNat % 16)]
  else [c]

/-- A text in quotes. -/
def encode (text : String) : List Char :=
  '"' :: (text.toList.flatMap escape ++ ['"'])

/-- A character that stands for itself or is named by a letter, or a unit given by its code. -/
inductive Piece where
  | char (c : Char)
  | unit (code : Nat)

/-- The character that an escape letter names. -/
def named? (letter : Char) : Option Char :=
  if letter = '"' then some '"'
  else if letter = '\\' then some '\\'
  else if letter = '/' then some '/'
  else if letter = 'b' then some '\x08'
  else if letter = 'f' then some '\x0c'
  else if letter = 'n' then some '\n'
  else if letter = 'r' then some '\r'
  else if letter = 't' then some '\t'
  else none

/-- The code that four hexadecimal digits give. -/
def code? (a b c d : Char) : Option Nat := do
  let a ← hexDigit? a
  let b ← hexDigit? b
  let c ← hexDigit? c
  let d ← hexDigit? d
  return ((a * 16 + b) * 16 + c) * 16 + d

/-- The pieces of a string that follows its opening quote. -/
inductive Pieces where
  | closed (pieces : List Piece) (rest : List Char)
  | broken (pieces : List Piece) (fault : Fault)

/-- The fault of an escape whose four digits are not there: the text is too short for them when
fewer than four bytes are left of it. -/
def lackingDigits (text : List Char) : Fault :=
  if text.foldr (fun c length => c.utf8Size + length) 0 < 4 then .ended else .malformed

/-- Cut a string into pieces; those before it are held in reverse. -/
def piecesOnto (before : List Piece) : List Char → Pieces
  | [] => .broken before.reverse .ended
  | c :: text =>
    if c = '"' then .closed before.reverse text
    else if c = '\\' then
      match text with
      | [] => .broken before.reverse .ended
      | letter :: text =>
        if letter = 'u' then
          match text with
          | a :: b :: c :: d :: text =>
            match code? a b c d with
            | some code => piecesOnto (.unit code :: before) text
            | none => .broken before.reverse .malformed
          | short => .broken before.reverse (lackingDigits short)
        else
          match named? letter with
          | some named => piecesOnto (.char named :: before) text
          | none => .broken before.reverse .malformed
    else if c < ' ' then .broken before.reverse .malformed
    else piecesOnto (.char c :: before) text

/-- The first half of a character beyond the first plane. -/
def isHigh (code : Nat) : Bool := 0xD800 ≤ code && code < 0xDC00

/-- The second half of a character beyond the first plane. -/
def isLow (code : Nat) : Bool := 0xDC00 ≤ code && code < 0xE000

/-- The character of two halves. -/
def join (high low : Nat) : Char :=
  Char.ofNat (0x10000 + (high - 0xD800) * 0x400 + (low - 0xDC00))

/-- The text of pieces, unless a half lacks its partner; the text before is held in reverse. -/
def textOnto (before : List Char) : List Piece → Option (List Char)
  | [] => some before.reverse
  | .char c :: pieces => textOnto (c :: before) pieces
  | .unit code :: pieces =>
    if isHigh code then
      match pieces with
      | .unit low :: pieces =>
        if isLow low then textOnto (join code low :: before) pieces else none
      | _ => none
    else if isLow code then none
    else textOnto (Char.ofNat code :: before) pieces

/-- The pieces without a first half at the end, whose partner may have been still to come. -/
def withoutOpenHalf (pieces : List Piece) : List Piece :=
  match pieces.getLast? with
  | some (.unit code) => if isHigh code then pieces.dropLast else pieces
  | _ => pieces

/-- Scan a string behind its opening quote; its value is none if a half lacks its partner. In a
string that breaks off, such a half is a fault of its own. -/
def scan (text : List Char) : Scan (Option String) :=
  match piecesOnto [] text with
  | .closed pieces rest => .done ((textOnto [] pieces).map String.ofList) rest
  | .broken pieces fault =>
    .broken (if (textOnto [] (withoutOpenHalf pieces)).isSome then fault else .malformed) fault

end Quoted

end PluginSchema.Json
