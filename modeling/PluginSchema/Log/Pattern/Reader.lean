import PluginSchema.Log.Pattern.Bracket
import PluginSchema.Text.Numeric

/-!
# Reading patterns

A pattern is read sign by sign. What is open at a sign, groups within groups, is kept as a stack;
a group holds alternatives, and the last of these the parts read so far.
-/

namespace PluginSchema.Log.Pattern

/-- What has been read of a group or of the whole pattern, the last first. -/
structure Draft where
  alternatives : List Pattern := []
  parts : List Pattern := []

/-- End an alternative. -/
def Draft.endAlternative (draft : Draft) : Draft :=
  { alternatives := ofParts draft.parts.reverse :: draft.alternatives }

/-- The pattern that has been read. -/
def Draft.pattern (draft : Draft) : Pattern :=
  ofAlternatives draft.endAlternative.alternatives.reverse

/-- A group that is open: what was read before it, and how it began. -/
structure OpenGroup where
  before : Draft
  switching : Switching
  /-- Whether the pattern is spaced behind the group. -/
  spaced : Bool

/-- How far a pattern has been read. -/
structure Progress where
  draft : Draft := {}
  /-- The open groups, the innermost first. -/
  groups : List OpenGroup := []
  spaced : Bool := false
  /-- The names of groups so far. -/
  names : List (List Char) := []

namespace Progress

/-- Add a part. -/
def add (part : Pattern) (progress : Progress) : Progress :=
  { progress with
    draft := { progress.draft with parts := part :: progress.draft.parts } }

/-- Open a group. -/
def enter (switching : Switching) (progress : Progress) : Progress :=
  { progress with
    draft := {}
    groups := ⟨progress.draft, switching, progress.spaced⟩ :: progress.groups
    spaced := switching.spaced.getD progress.spaced }

/-- Close a group. -/
def leave? (progress : Progress) : Option Progress :=
  match progress.groups with
  | [] => none
  | ⟨before, switching, spaced⟩ :: groups =>
    some ({ progress with draft := before, groups, spaced }.add
      (.group switching progress.draft.pattern))

/-- Repeat the last part. -/
def repeatLast? (progress : Progress) : Option Progress :=
  match progress.draft.parts with
  | part :: parts =>
    if part.isRepeatable then
      some { progress with draft := { progress.draft with parts := .repeated part :: parts } }
    else none
  | [] => none

end Progress

/-- Whether a text may name a group. -/
def isGroupName : List Char → Bool
  | [] => false
  | c :: rest =>
    (c = '_' || Text.isAlphabetic c) &&
      rest.all fun c => ['_', '.', '[', ']'].contains c || Text.isAlphanumeric c

/-- Read the name of a group, and open it. -/
def namedGroup? (progress : Progress) (text : List Char) : Option (Progress × List Char) :=
  let name := text.takeWhile (· ≠ '>')
  match text.drop name.length with
  | _ :: rest =>
    if isGroupName name && !progress.names.contains name then
      some ({ progress.enter {} with names := name :: progress.names }, rest)
    else none
  | [] => none

/-- Turn a switch on or off; some make no difference here. -/
def Switching.set? (c : Char) (on : Bool) (switching : Switching) : Option Switching :=
  if c = 'i' then some { switching with eitherCase := some on }
  else if c = 'u' then some { switching with ascii := some !on }
  else if c = 'x' then some { switching with spaced := some on }
  else if ['m', 's', 'U', 'R'].contains c then some switching
  else none

/-- Read switches behind the signs before them, each of which may stand once: what is switched,
whether a group begins, and the rest. Behind a dash the switches are turned off. -/
def switches? (signs : List Char) (switching : Switching) :
    List Char → Option (Switching × Bool × List Char)
  | [] => none
  | c :: rest =>
    let afterDash := signs.head? = some '-'
    if c = ':' then
      if afterDash then none else some (switching, true, rest)
    else if c = ')' then
      if afterDash || signs.isEmpty then none else some (switching, false, rest)
    else if signs.contains c then none
    else if c = '-' then switches? (c :: signs) switching rest
    else do switches? (c :: signs) (← Switching.set? c (!signs.contains '-') switching) rest

/-- Read what follows an opening parenthesis. -/
def openGroup? (progress : Progress) (text : List Char) : Option (Progress × List Char) :=
  match atSign progress.spaced text with
  | '?' :: 'P' :: '<' :: rest => namedGroup? progress rest
  | '?' :: '<' :: rest => namedGroup? progress rest
  | '?' :: rest => do
    let (switching, isGroup, rest) ← switches? [] {} rest
    if isGroup then return (progress.enter switching, rest)
    else
      let spaced := switching.spaced.getD progress.spaced
      return ({ progress with spaced }.add (.switch switching), rest)
  | rest => some (progress.enter {}, rest)

/-- Read one sign and what belongs to it. -/
def sign? (progress : Progress) (c : Char) (rest : List Char) :
    Option (Progress × List Char) :=
  if c = '(' then openGroup? progress rest
  else if c = ')' then do return (← progress.leave?, rest)
  else if c = '|' then
    some ({ progress with draft := progress.draft.endAlternative }, rest)
  else if c = '[' then do
    let (set, rest) ← bracketed? progress.spaced rest
    return (progress.add (.oneOf set), rest)
  else if ['?', '*', '+'].contains c then do
    let progress ← progress.repeatLast?
    return (progress, if rest.head? = some '?' then rest.drop 1 else rest)
  else if c = '\x7b' then none
  else if c = '\\' then do
    let (escape, rest) ← escape? progress.spaced rest
    let part : Pattern :=
      match escape with
      | .literal character => .literal character
      | .kind negated => .oneOf (.kind negated)
      | .place ofWord => .place ofWord
    return (progress.add part, rest)
  else if c = '.' then some (progress.add .any, rest)
  else if c = '^' ∨ c = '$' then some (progress.add (.place false), rest)
  else some (progress.add (.literal ⟨c.toNat, false⟩), rest)

/-- Read the rest of a pattern in a number of steps. -/
def read? : Nat → Progress → List Char → Option Pattern
  | steps, progress, text =>
    match atSign progress.spaced text, steps with
    | [], _ => if progress.groups.isEmpty then some progress.draft.pattern else none
    | _ :: _, 0 => none
    | c :: rest, steps + 1 => do
      let (progress, rest) ← sign? progress c rest
      read? steps progress rest

/-- The pattern that a text writes. The braces of counts and of properties cannot close in a
directive, so a brace that opens is refused. Each step takes a character. -/
def parse? (text : List Char) : Option Pattern := read? text.length {} text

/-- Whether a text is a well formed pattern. -/
def isWellFormed (text : List Char) : Bool := (parse? text).any isUsable

end PluginSchema.Log.Pattern
