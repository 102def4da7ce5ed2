import PluginSchema.Json.Quoted

/-!
# Writing values

The values that schemas are written as, and their compact text: no blanks, members in their
order. Absent things are left out of objects, so nothing is written as `null`.
-/

namespace PluginSchema.Json

/-- A value to write. -/
inductive Value where
  | bool (value : Bool)
  | int (value : Int)
  | str (text : String)
  | arr (items : List Value)
  | obj (members : List (String × Value))

namespace Value

/-- The decimal digits of a number, behind a minus sign if it is negative. -/
def renderInt : Int → List Char
  | .ofNat n => Nat.toDigits 10 n
  | .negSucc n => '-' :: Nat.toDigits 10 (n + 1)

mutual

/-- The compact text of a value. -/
def render : Value → List Char
  | bool true => ['t', 'r', 'u', 'e']
  | bool false => ['f', 'a', 'l', 's', 'e']
  | int n => renderInt n
  | str text => Quoted.encode text
  | arr [] => ['[', ']']
  | arr (first :: rest) => '[' :: (first.render ++ renderItems rest ++ [']'])
  | obj [] => ['{', '}']
  | obj ((key, first) :: rest) =>
    '{' :: (Quoted.encode key ++ ':' :: (first.render ++ renderMembers rest ++ ['}']))

/-- The compact text of items that follow another one. -/
def renderItems : List Value → List Char
  | [] => []
  | item :: rest => ',' :: (item.render ++ renderItems rest)

/-- The compact text of members that follow another one. -/
def renderMembers : List (String × Value) → List Char
  | [] => []
  | (key, value) :: rest =>
    ',' :: (Quoted.encode key ++ ':' :: (value.render ++ renderMembers rest))

end

/-- The compact text of a value, as a string. -/
def text (value : Value) : String := String.ofList value.render

/-- The member of a value that may be absent. -/
def optional {α : Type} (key : String) (write : α → Value) :
    Option α → List (String × Value)
  | some value => [(key, write value)]
  | none => []

end Value

end PluginSchema.Json
