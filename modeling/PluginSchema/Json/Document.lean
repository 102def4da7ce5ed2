import PluginSchema.Json.Node
import PluginSchema.Json.Quoted

/-!
# Documents from texts

Every text is scanned to the tree of the document that it holds, with a cut where it stops being
JSON. Behind the value only blanks may follow; whether others do is kept beside the tree, since
a reader looks there last.
-/

namespace PluginSchema.Json

namespace Node

/-- Match a word. -/
def scanWord (fault : Fault → Fault → Cut) (node : Node) :
    List Char → List Char → Node × Option (List Char)
  | [], text => (node, some text)
  | _ :: _, [] => (.cut (fault .ended .ended), none)
  | w :: word, c :: text =>
    if w = c then scanWord fault node word text
    else (.cut (fault .malformed .malformed), none)

mutual

/-- Scan a value: its tree, and the rest of the text unless there is a cut in the tree. -/
def scan : Nat → List Char → Node × Option (List Char)
  | 0, _ => (.cut (.token .malformed .malformed), none)
  | fuel + 1, text =>
    match skipBlanks text with
    | [] => (.cut .ended, none)
    | '"' :: text =>
      match Quoted.scan text with
      | .done value rest => (.str value, some rest)
      | .broken strict loose => (.cut (.string strict loose), none)
    | '[' :: text =>
      let (items, rest) := scanItems fuel text
      (.arr items, rest)
    | '{' :: text =>
      let (members, rest) := scanMembers fuel text
      (.obj members, rest)
    | 'n' :: text => scanWord (fun fault _ => .nullWord fault) .null ['u', 'l', 'l'] text
    | 't' :: text => scanWord .token (.bool true) ['r', 'u', 'e'] text
    | 'f' :: text => scanWord .token (.bool false) ['a', 'l', 's', 'e'] text
    | c :: text =>
      if c = '-' ∨ c.isDigit then
        match Number.scan (c :: text) with
        | .done value rest => (.num value, some rest)
        | .broken strict loose => (.cut (.token strict loose), none)
      else (.cut (.token .malformed .malformed), none)

/-- Scan what follows an opening bracket. -/
def scanItems : Nat → List Char → Items × Option (List Char)
  | 0, _ => (.stop false .malformed, none)
  | fuel + 1, text =>
    match skipBlanks text with
    | [] => (.stop false .ended, none)
    | ']' :: rest => (.close, some rest)
    | text => scanItem fuel text

/-- Scan an item and what follows it. -/
def scanItem : Nat → List Char → Items × Option (List Char)
  | 0, _ => (.stop false .malformed, none)
  | fuel + 1, text =>
    match scan fuel text with
    | (node, none) => (.item node (.stop false .malformed), none)
    | (node, some text) =>
      let (items, rest) := scanMoreItems fuel text
      (.item node items, rest)

/-- Scan what follows an item. -/
def scanMoreItems : Nat → List Char → Items × Option (List Char)
  | 0, _ => (.stop false .malformed, none)
  | fuel + 1, text =>
    match skipBlanks text with
    | [] => (.stop false .ended, none)
    | ']' :: rest => (.close, some rest)
    | ',' :: text =>
      match skipBlanks text with
      | [] => (.stop true .ended, none)
      | ']' :: _ => (.stop true .malformed, none)
      | text => scanItem fuel text
    | _ => (.stop false .malformed, none)

/-- Scan what follows an opening brace. -/
def scanMembers : Nat → List Char → Members × Option (List Char)
  | 0, _ => (.stop false .malformed .malformed, none)
  | fuel + 1, text =>
    match skipBlanks text with
    | [] => (.stop false .ended .ended, none)
    | '}' :: rest => (.close, some rest)
    | '"' :: text => scanMember fuel false text
    | _ => (.stop false .malformed .malformed, none)

/-- Scan a member behind the quote that opens its key, and what follows it. -/
def scanMember : Nat → Bool → List Char → Members × Option (List Char)
  | 0, comma, _ => (.stop comma .malformed .malformed, none)
  | fuel + 1, comma, text =>
    match Quoted.scan text with
    | .broken strict loose => (.stop comma strict loose, none)
    | .done key text =>
      match skipBlanks text with
      | [] => (.member key (.cut .ended) (.stop false .malformed .malformed), none)
      | ':' :: text =>
        match scan fuel text with
        | (node, none) => (.member key node (.stop false .malformed .malformed), none)
        | (node, some text) =>
          let (members, rest) := scanMoreMembers fuel text
          (.member key node members, rest)
      | _ =>
        (.member key (.cut (.token .malformed .malformed)) (.stop false .malformed .malformed),
          none)

/-- Scan what follows a member. -/
def scanMoreMembers : Nat → List Char → Members × Option (List Char)
  | 0, _ => (.stop false .malformed .malformed, none)
  | fuel + 1, text =>
    match skipBlanks text with
    | [] => (.stop false .ended .ended, none)
    | '}' :: rest => (.close, some rest)
    | ',' :: text =>
      match skipBlanks text with
      | [] => (.stop true .ended .ended, none)
      | '"' :: text => scanMember fuel true text
      | _ => (.stop true .malformed .malformed, none)
    | _ => (.stop false .malformed .malformed, none)

end

end Node

/-- A document: its tree, and whether anything but blanks follows the value. -/
structure Document where
  root : Node
  trailing : Bool

/-- The document that a text holds. Every third step of a scan takes a character, so the steps
granted here suffice. -/
def Document.ofText (text : List Char) : Document :=
  match Node.scan (3 * text.length + 3) text with
  | (root, some rest) => ⟨root, !(skipBlanks rest).isEmpty⟩
  | (root, none) => ⟨root, false⟩

end PluginSchema.Json
