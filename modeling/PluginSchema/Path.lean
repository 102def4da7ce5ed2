/-!
# Paths to attributes

A path names an attribute by the names that lead to it from the root of a schema. Its dotted
form is for people: names may hold dots themselves, so it does not always split back.
-/

namespace PluginSchema

/-- The names that lead from the root of a schema to an attribute. -/
structure Path where
  steps : List String
  deriving DecidableEq

namespace Path

/-- The path of the root, with no step. -/
def root : Path := ⟨[]⟩

/-- The path of the attribute `name` just below `path`. -/
def child (path : Path) (name : String) : Path := ⟨path.steps ++ [name]⟩

/-- Whether the path has no step. -/
def isRoot (path : Path) : Bool := path.steps.isEmpty

/-- The steps, joined by dots. -/
def dotted (path : Path) : String := String.intercalate "." path.steps

end Path

end PluginSchema
