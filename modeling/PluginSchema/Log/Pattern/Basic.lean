/-!
# Patterns

A directive may want the value of a field to fit a pattern, which is a regular expression. No
field that a filter looks at holds a text, so a pattern is never matched here, but a directive
with a pattern that is not well formed is malformed itself.

A pattern is a tree. It may not nest too deep, and each of its parts must have a meaning under the
switches that hold there: what digits, spaces, words and letters in either case are is known of
ASCII only, so the parts that speak of these need the switch that limits them to ASCII; under that
switch, in turn, no part may stand for other characters.
-/

namespace PluginSchema.Log

/-- The switches that decide which parts have a meaning. -/
structure Switches where
  /-- Letters fit in either case. -/
  eitherCase : Bool := false
  /-- Only ASCII characters are told apart. -/
  ascii : Bool := false

/-- Which switches are turned on or off, the rest being left alone. -/
structure Switching where
  eitherCase : Option Bool := none
  ascii : Option Bool := none
  /-- Whether blanks and comments may stand between the parts that follow. -/
  spaced : Option Bool := none

/-- The switches after some are turned on or off. -/
def Switching.apply (switching : Switching) (switches : Switches) : Switches where
  eitherCase := switching.eitherCase.getD switches.eitherCase
  ascii := switching.ascii.getD switches.ascii

/-- A character of a pattern. -/
structure Literal where
  code : Nat
  /-- Whether it is written as the two hexadecimal digits of a byte. -/
  isByte : Bool := false

/-- A set of characters. -/
inductive CharacterSet where
  | empty
  | literal (character : Literal)
  | range (first last : Literal)
  /-- A set that has a name, or all but it. -/
  | named (negated : Bool)
  /-- The digits, the spaces or the characters of words, or all but these. -/
  | kind (negated : Bool)
  /-- A set in brackets, or all but it. -/
  | bracketed (negated : Bool) (set : CharacterSet)
  | union (sets : List CharacterSet)
  /-- An intersection or a difference of two sets. -/
  | combined (left right : CharacterSet)

/-- A regular expression. -/
inductive Pattern where
  | empty
  | literal (character : Literal)
  /-- Any character but a line end. -/
  | any
  /-- A character of a set. -/
  | oneOf (characters : CharacterSet)
  /-- A place between characters, perhaps one where a word begins or ends. -/
  | place (ofWord : Bool)
  /-- Switches for what follows up to the end of the group. -/
  | switch (switching : Switching)
  | repeated (pattern : Pattern)
  | group (switching : Switching) (pattern : Pattern)
  | sequence (parts : List Pattern)
  | choice (alternatives : List Pattern)

namespace CharacterSet

/-- The set of some sets together. -/
def ofList : List CharacterSet → CharacterSet
  | [] => empty
  | [set] => set
  | sets => union sets

mutual

/-- How deep a set nests. -/
def depth : CharacterSet → Nat
  | bracketed _ set => set.depth + 1
  | union sets => maxDepth sets + 1
  | combined left right => max left.depth right.depth + 1
  | _ => 0

/-- How deep the deepest of some sets nests. -/
def maxDepth : List CharacterSet → Nat
  | [] => 0
  | set :: sets => max set.depth (maxDepth sets)

end

mutual

/-- Whether a set has a meaning. A set whose characters fit in either case has one beyond ASCII
only if it names no character. -/
def isMeaningful (switches : Switches) : CharacterSet → Bool
  | empty => true
  | literal character => admits switches character
  | range first last => admits switches first && admits switches last
  | named negated => if switches.ascii then !negated else !switches.eitherCase
  | kind negated => switches.ascii && !negated
  | bracketed negated set => set.isMeaningful switches && !(switches.ascii && negated)
  | union sets => areMeaningful switches sets
  | combined left right => left.isMeaningful switches && right.isMeaningful switches
where
  /-- Whether a character may be a member. -/
  admits (switches : Switches) (character : Literal) : Bool :=
    if switches.ascii then character.code < 0x80 else !switches.eitherCase

/-- Whether each of some sets has a meaning. -/
def areMeaningful (switches : Switches) : List CharacterSet → Bool
  | [] => true
  | set :: sets => set.isMeaningful switches && areMeaningful switches sets

end

end CharacterSet

namespace Pattern

/-- The pattern of some parts in their order. -/
def ofParts : List Pattern → Pattern
  | [] => empty
  | [part] => part
  | parts => sequence parts

/-- The pattern of some alternatives. -/
def ofAlternatives : List Pattern → Pattern
  | [] => empty
  | [alternative] => alternative
  | alternatives => choice alternatives

/-- Whether a pattern can be repeated. -/
def isRepeatable : Pattern → Bool
  | empty | switch _ => false
  | _ => true

mutual

/-- How deep a pattern nests. -/
def depth : Pattern → Nat
  | oneOf characters => characters.depth
  | repeated pattern => pattern.depth + 1
  | group _ pattern => pattern.depth + 1
  | sequence parts => maxDepth parts + 1
  | choice alternatives => maxDepth alternatives + 1
  | _ => 0

/-- How deep the deepest of some patterns nests. -/
def maxDepth : List Pattern → Nat
  | [] => 0
  | pattern :: patterns => max pattern.depth (maxDepth patterns)

end

mutual

/-- The switches behind a pattern, if each of its parts has a meaning. -/
def switchesAfter? (switches : Switches) : Pattern → Option Switches
  | empty => some switches
  | literal character =>
    if switches.ascii then
      if character.isByte && 0x80 ≤ character.code then none else some switches
    else if switches.eitherCase then none
    else some switches
  | any => if switches.ascii then none else some switches
  | oneOf characters => if characters.isMeaningful switches then some switches else none
  | place ofWord => if ofWord && !switches.ascii then none else some switches
  | switch switching => some (switching.apply switches)
  | repeated pattern => pattern.switchesAfter? switches
  | group switching pattern =>
    (pattern.switchesAfter? (switching.apply switches)).map fun _ => switches
  | sequence parts => switchesAfterAll? switches parts
  | choice alternatives => switchesAfterAll? switches alternatives

/-- The switches behind some patterns, one after the other. -/
def switchesAfterAll? (switches : Switches) : List Pattern → Option Switches
  | [] => some switches
  | pattern :: patterns => do switchesAfterAll? (← pattern.switchesAfter? switches) patterns

end

/-- How deep a pattern may nest. -/
def depthLimit : Nat := 250

/-- Whether a pattern nests within the limit and has a meaning. -/
def isUsable (pattern : Pattern) : Bool :=
  pattern.depth ≤ depthLimit && (pattern.switchesAfter? {}).isSome

end Pattern

end PluginSchema.Log
