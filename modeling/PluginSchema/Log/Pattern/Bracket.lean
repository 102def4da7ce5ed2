import PluginSchema.Log.Pattern.Escape

/-!
# Sets in brackets

A set in brackets lists characters, ranges and other sets. Two sets may be combined by `&&`, `--`
or `~~`, which bind less than the listing and count from the left.
-/

namespace PluginSchema.Log.Pattern

/-- Read a character of a listing, or what a backslash gives in its place. -/
def listed? (spaced : Bool) : List Char → Option (Escape × List Char)
  | [] => none
  | '\\' :: rest => escape? spaced rest
  | c :: rest => some (.literal ⟨c.toNat, false⟩, rest)

/-- The set that a listed character or kind is. -/
def Escape.set? : Escape → Option CharacterSet
  | .literal character => some (.literal character)
  | .kind negated => some (.kind negated)
  | .place _ => none

/-- Read a listed character or range. A dash before the end of the listing or before another dash
makes no range. -/
def listedRange? (spaced : Bool) (text : List Char) : Option (CharacterSet × List Char) := do
  let (first, rest) ← listed? spaced text
  match atSign spaced rest with
  | '-' :: others =>
    let ahead := signAhead? spaced others
    if ahead = some ']' ∨ ahead = some '-' then return (← first.set?, '-' :: others)
    let (last, rest) ← listed? spaced (atSign spaced others)
    match first, last with
    | .literal first, .literal last =>
      if first.code ≤ last.code then some (.range first last, rest) else none
    | _, _ => none
  | rest => return (← first.set?, rest)

/-- The sets that have a name. -/
def setNames : List String :=
  ["alnum", "alpha", "ascii", "blank", "cntrl", "digit", "graph", "lower", "print", "punct",
    "space", "upper", "word", "xdigit"]

/-- Read a named set behind its opening bracket: whether it is negated, and the rest. -/
def namedSet? : List Char → Option (Bool × List Char)
  | ':' :: text =>
    let negated := text.head? = some '^'
    let text := if negated then text.drop 1 else text
    let name := text.takeWhile (· ≠ ':')
    match text.drop name.length with
    | ':' :: ']' :: rest =>
      if setNames.contains (String.ofList name) then some (negated, rest) else none
    | _ => none
  | _ => none

/-- A listing that has been read in part. -/
structure Listing where
  negated : Bool
  /-- What stands before the last sign that combines two sets. -/
  left : Option CharacterSet := none
  /-- What has been listed since, the last first. -/
  members : List CharacterSet := []

namespace Listing

/-- Add a set to a listing. -/
def add (set : CharacterSet) (listing : Listing) : Listing :=
  { listing with members := set :: listing.members }

/-- The set that has been read. -/
def set (listing : Listing) : CharacterSet :=
  let members := CharacterSet.ofList listing.members.reverse
  match listing.left with
  | none => members
  | some left => .combined left members

/-- Go on behind a sign that combines the set read so far with another. -/
def combine (listing : Listing) : Listing :=
  { listing with left := some listing.set, members := [] }

/-- Read dashes, which stand for themselves at the start of a listing. -/
def readDashes (spaced : Bool) (listing : Listing) : Nat → List Char → Listing × List Char
  | steps + 1, '-' :: rest =>
    readDashes spaced (listing.add (.literal ⟨'-'.toNat, false⟩)) steps (atSign spaced rest)
  | _, text => (listing, text)

/-- Read the start of a listing behind its opening bracket. A closing bracket stands for itself
there unless a dash precedes it. -/
def start (spaced : Bool) (text : List Char) : Listing × List Char :=
  let text := atSign spaced text
  let negated := text.head? = some '^'
  let text := if negated then atSign spaced (text.drop 1) else text
  match readDashes spaced { negated } text.length text with
  | (⟨_, _, []⟩, ']' :: rest) =>
    ({ negated, members := [.literal ⟨']'.toNat, false⟩] }, atSign spaced rest)
  | result => result

end Listing

/-- Read the rest of a listing within others, the innermost first, in a number of steps. -/
def listing? (spaced : Bool) :
    Nat → List Listing → Listing → List Char → Option (CharacterSet × List Char)
  | 0, _, _, _ => none
  | steps + 1, outer, listing, text =>
    match atSign spaced text with
    | [] => none
    | '[' :: rest =>
      match namedSet? rest with
      | some (negated, rest) => listing? spaced steps outer (listing.add (.named negated)) rest
      | none =>
        let (inner, rest) := Listing.start spaced rest
        listing? spaced steps (listing :: outer) inner rest
    | ']' :: rest =>
      let set := CharacterSet.bracketed listing.negated listing.set
      match outer with
      | [] => some (set, rest)
      | listing :: outer => listing? spaced steps outer (listing.add set) rest
    | '&' :: '&' :: rest | '-' :: '-' :: rest | '~' :: '~' :: rest =>
      listing? spaced steps outer listing.combine rest
    | text => do
      let (set, rest) ← listedRange? spaced text
      listing? spaced steps outer (listing.add set) rest

/-- Read a set in brackets behind the opening bracket. Each step takes a character. -/
def bracketed? (spaced : Bool) (text : List Char) : Option (CharacterSet × List Char) :=
  let (listing, rest) := Listing.start spaced text
  listing? spaced (text.length + 1) [] listing rest

end PluginSchema.Log.Pattern
