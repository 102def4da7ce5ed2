import PluginSchema.Json.Value

/-!
# Drafts

What a program asks to be written. Any value may stand as the key of a member in a draft, while
JSON has texts as keys only: truth values and numbers are turned into texts, and a draft with
another key cannot be written.
-/

namespace PluginSchema.Json

/-- A value that is asked to be written. -/
inductive Draft where
  | bool (value : Bool)
  | int (value : Int)
  | str (text : String)
  | seq (items : List Draft)
  | map (entries : List (Draft × Draft))

/-- Why a draft cannot be written. -/
inductive WriteError where
  /-- A key is neither a text nor a simple value that has one. -/
  | keyIsNoText
  deriving DecidableEq

namespace Draft

/-- The text of a key. -/
def key : Draft → Except WriteError String
  | str text => .ok text
  | bool value => .ok (toString value)
  | int value => .ok (toString value)
  | seq _ | map _ => .error .keyIsNoText

mutual

/-- The value that is written for a draft. -/
def toValue : Draft → Except WriteError Value
  | bool value => .ok (.bool value)
  | int value => .ok (.int value)
  | str text => .ok (.str text)
  | seq items => return .arr (← toItems items)
  | map entries => return .obj (← toMembers entries)

/-- The values that are written for items. -/
def toItems : List Draft → Except WriteError (List Value)
  | [] => .ok []
  | item :: rest => return (← item.toValue) :: (← toItems rest)

/-- The members that are written for entries. -/
def toMembers : List (Draft × Draft) → Except WriteError (List (String × Value))
  | [] => .ok []
  | (name, value) :: rest => do
    let name ← name.key
    return (name, ← value.toValue) :: (← toMembers rest)

end

/-- The compact text of a draft. -/
def text (draft : Draft) : Except WriteError String := return (← draft.toValue).text

end Draft

end PluginSchema.Json
