import PluginSchema.Text.Quoted

/-!
# Cutting texts at bytes

A place in a text is the number of bytes before it. A text can be cut at a place unless the place
is within a character.
-/

namespace PluginSchema.Text

/-- The number of bytes of a text. -/
def byteLength (text : List Char) : Nat := text.foldr (fun c length => c.utf8Size + length) 0

/-- An end of a part of a text. -/
inductive Edge where
  | start
  | stop
  deriving DecidableEq

/-- An end of a part that lies within a character. -/
structure BadCut where
  edge : Edge
  place : Nat
  character : Char
  /-- The place of the character. -/
  characterStart : Nat
  deriving DecidableEq

/-- The words for a bad cut. -/
def BadCut.message (cut : BadCut) : String :=
  let name :=
    match cut.edge with
    | .start => "start"
    | .stop => "end"
  let characterEnd := cut.characterStart + cut.character.utf8Size
  name ++ " byte index " ++ toString cut.place ++ " is not a char boundary; it is inside '"
    ++ String.ofList (shown cut.character) ++ "' (bytes " ++ toString cut.characterStart ++ ".."
    ++ toString characterEnd ++ " of string)"

/-- Split a text that begins at a place behind a number of its bytes. Where that is within a
character, the character and its place are given instead. -/
def splitAtByte (place : Nat) : Nat → List Char → Except (Char × Nat) (List Char × List Char)
  | 0, text => .ok ([], text)
  | _ + 1, [] => .ok ([], [])
  | count + 1, c :: text =>
    if c.utf8Size ≤ count + 1 then do
      let (before, after) ← splitAtByte (place + c.utf8Size) (count + 1 - c.utf8Size) text
      return (c :: before, after)
    else .error (c, place)

/-- The part of a text from a place on. -/
def partFrom (text : List Char) (start : Nat) : Except BadCut (List Char) :=
  match splitAtByte 0 start text with
  | .ok (_, after) => .ok after
  | .error (c, place) => .error ⟨.start, start, c, place⟩

/-- The part of a text between two places. -/
def part (text : List Char) (start stop : Nat) : Except BadCut (List Char) := do
  let after ← partFrom text start
  match splitAtByte start (stop - start) after with
  | .ok (between, _) => .ok between
  | .error (c, place) => .error ⟨.stop, stop, c, place⟩

end PluginSchema.Text
