import PluginSchema.Proofs.Conversion.Verdict

/-!
# Where a tree stands

A tree of attributes is judged alike wherever it stands. Under another name and at another path it
gives the same record, but for the name at its top, or it is refused for the same reason at the
same place in it: of an error only the path changes, and of the path only the part that leads to
the tree. A block gives the same record or error at every path, too.
-/

namespace PluginSchema

namespace SchemaError

/-- The same error about an attribute at another path. -/
def movedTo (path : Path) : SchemaError → SchemaError
  | missingType _ => missingType path
  | conflictingType _ => conflictingType path
  | missingConstraint _ => missingConstraint path
  | conflictingConstraint _ => conflictingConstraint path
  | unsupportedNesting _ version => unsupportedNesting path version
  | unsupportedProtocolVersion version => unsupportedProtocolVersion version

/-- The message does not tell where the attribute stands. -/
@[simp] theorem message_movedTo (path : Path) (error : SchemaError) :
    (error.movedTo path).message = error.message := by
  cases error <;> rfl

/-- An error about what names lead to below a path, and the same error below another path: the
same reason, with the same version if it has one, and in the same words. -/
structure AlikeBelow (path elsewhere : Path) (steps : List String) (error other : SchemaError) :
    Prop where
  path : error.path? = some (path.extend steps)
  moved : other = error.movedTo (elsewhere.extend steps)
  otherPath : other.path? = some (elsewhere.extend steps)
  message : other.message = error.message

end SchemaError

open Conversion (settle)

/-- Two results of one conversion at two paths: both times a record, one made from the other, or
both times an error, about the same steps below the two paths. -/
def SameResult {α : Type} (path elsewhere : Path) (reached : List String → Prop) (change : α → α)
    (result other : Except SchemaError α) : Prop :=
  (∃ record, result = .ok record ∧ other = .ok (change record)) ∨
    ∃ error moved steps, result = .error error ∧ other = .error moved ∧ reached steps ∧
      error.AlikeBelow path elsewhere steps moved

namespace Attribute

/-- An attribute has the same fault at every path. -/
theorem fault?_movedTo (capabilities : Capabilities) (path elsewhere : Path) (a : Attribute) :
    a.fault? capabilities elsewhere =
      (a.fault? capabilities path).map (SchemaError.movedTo elsewhere) := by
  unfold fault?
  split_ifs <;> rfl

/-- A faulty node is refused alike below every path. -/
theorem Node.alikeBelow_of_fault? {capabilities : Capabilities} {path : Path} {node : Node}
    {error : SchemaError} (h : node.fault? capabilities path = some error) (elsewhere : Path) :
    ∃ moved, node.fault? capabilities elsewhere = some moved ∧
      error.AlikeBelow path elsewhere node.steps moved := by
  have hmoved : node.fault? capabilities elsewhere =
      some (error.movedTo (elsewhere.extend node.steps)) := by
    rw [fault?, fault?_movedTo capabilities (path.extend node.steps)]
    exact congrArg (Option.map _) h
  exact ⟨_, hmoved, path?_of_fault? h, rfl, path?_of_fault? hmoved, SchemaError.message_movedTo _ _⟩

/-- The first faulty node is the same below every path. -/
theorem sameResult_of_nodes {α : Type} (capabilities : Capabilities) (path elsewhere : Path)
    {nodes : List Node} {reached : List String → Prop} (h : ∀ node ∈ nodes, reached node.steps)
    (change : α → α) (record : α) :
    SameResult path elsewhere reached change
      (settle (nodes.findSome? (Node.fault? capabilities path)) record)
      (settle (nodes.findSome? (Node.fault? capabilities elsewhere)) (change record)) := by
  induction nodes with
  | nil => exact .inl ⟨record, rfl, rfl⟩
  | cons node rest ih =>
    obtain ⟨hnode, hrest⟩ := List.forall_mem_cons.mp h
    rw [List.findSome?_cons, List.findSome?_cons]
    cases hfault : node.fault? capabilities path with
    | some error =>
      obtain ⟨moved, hmoved, halike⟩ := node.alikeBelow_of_fault? hfault elsewhere
      rw [hmoved]
      exact .inr ⟨error, moved, node.steps, rfl, rfl, hnode, halike⟩
    | none =>
      have hnone : node.fault? capabilities elsewhere = none := by
        rw [Node.fault?, fault?_movedTo capabilities (path.extend node.steps)]
        exact congrArg (Option.map _) hfault
      rw [hnone]
      exact ih hrest

/-- Names lead at least one step down to what is nested below a list of trees. -/
theorem steps_ne_nil_of_mem_nodesBelow {entries : List (String × Attribute)} {node : Node}
    (h : node ∈ nodesBelow entries) : node.steps ≠ [] := by
  obtain ⟨entry, -, inner, -, rfl⟩ := mem_nodesBelow.mp h
  exact List.cons_ne_nil _ _

/-- The result of a conversion does not depend on where it takes place. An attribute gives the
same record under every name and at every path, but for the name at its top, or an error for the
same reason, with the same version and message, at the same place below the path. So does a block
at every path, where an error lies at least one step below. -/
theorem convert_wherever (capabilities : Capabilities) :
    (∀ (a : Attribute) (name other : String) (path elsewhere : Path),
      SameResult path elsewhere (fun _ => True) (fun record => { record with name := other })
        (a.convert capabilities name path).result (a.convert capabilities other elsewhere).result) ∧
    (∀ (block : Block) (path elsewhere : Path),
      SameResult path elsewhere (fun steps => steps ≠ []) id
        (block.convert capabilities path).result (block.convert capabilities elsewhere).result) := by
  refine ⟨fun a name other path elsewhere => ?_, fun block path elsewhere => ?_⟩
  · have hwire : a.wire other = { a.wire name with name := other } := by
      rw [wire_eq, wire_eq]
      rfl
    rw [convert_result, convert_result, hwire]
    exact sameResult_of_nodes capabilities path elsewhere (fun _ _ => trivial) _ _
  · rw [Block.convert_result, Block.convert_result]
    exact sameResult_of_nodes capabilities path elsewhere
      (fun _ => steps_ne_nil_of_mem_nodesBelow) id block.wire

-- The same fault of the same nested attribute, seen from two places.
example :
    (convert .v6 "a" ⟨["a"]⟩ (ofGroup { attributes := [("b", {})] } .forRequired)).result =
      .error (.missingType ⟨["a", "b"]⟩) ∧
    (convert .v6 "z" .root (ofGroup { attributes := [("b", {})] } .forRequired)).result =
      .error (.missingType ⟨["b"]⟩) := ⟨rfl, rfl⟩

end Attribute

end PluginSchema
