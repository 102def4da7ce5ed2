import PluginSchema.Proofs.Conversion.Result
import PluginSchema.Proofs.Nodes

/-!
# The first fault decides

A tree of attributes converts exactly if no attribute in it has a fault of its own. Otherwise the
error is the fault of the first faulty attribute on the walk through the tree, whatever faults
come later: an attribute is looked at before those nested in it, and siblings by ascending name.
-/

namespace PluginSchema.Attribute

open Conversion (Run)

variable {capabilities : Capabilities} {name : String} {path : Path} {a : Attribute}

/-- The fault of a node in a tree at a path, reported at the path extended by its steps. -/
def Node.fault? (capabilities : Capabilities) (path : Path) (node : Node) : Option SchemaError :=
  node.value.fault? capabilities (path.extend node.steps)

/-- Seen from one step further up, a node has the same fault at the same place. -/
theorem Node.below_fault? (capabilities : Capabilities) (path : Path) (name : String)
    (node : Node) :
    (node.below name).fault? capabilities path =
      node.fault? capabilities (path.child name) := by
  simp [fault?]

/-- The error of a conversion is the first fault on the walk through the tree. -/
theorem convert_error?_eq_findSome? (capabilities : Capabilities) (name : String) (path : Path)
    (a : Attribute) :
    (a.convert capabilities name path).error? =
      a.nodes.findSome? (Node.fault? capabilities path) := by
  induction a using childrenInduction generalizing name path with
  | step a ih =>
    have hbelow : (convertAll capabilities path a.children).error? =
        (nodesBelow a.children).findSome? (Node.fault? capabilities path) := by
      rw [convertAll_error?]
      refine findSome?_nodesBelow fun entry hentry => ?_
      simp only [ih entry hentry, Node.below_fault?]
    rw [convert_error?, hbelow, nodes_eq, List.findSome?_cons]
    simp only [Node.fault?, Path.extend_nil]
    cases a.fault? capabilities path <;> rfl

/-- A tree converts exactly if no node has a fault. -/
theorem convert_eq_ok_iff_nodes :
    (∃ record, (a.convert capabilities name path).result = .ok record) ↔
      ∀ node ∈ a.nodes, node.fault? capabilities path = none := by
  rw [← Run.error?_eq_none_iff, convert_error?_eq_findSome?, List.findSome?_eq_none_iff]

/-- A conversion fails with an error exactly if it is the fault of the first faulty node. -/
theorem convert_eq_error_iff_nodes {error : SchemaError} :
    (a.convert capabilities name path).result = .error error ↔
      ∃ before node after, a.nodes = before ++ node :: after ∧
        node.fault? capabilities path = some error ∧
        ∀ earlier ∈ before, earlier.fault? capabilities path = none := by
  rw [← Run.error?_eq_some_iff, convert_error?_eq_findSome?, List.findSome?_eq_some_iff]

/-- A tree converts exactly if each node passes its own check, and otherwise the error is the
fault of the first node that does not, at the path that leads to it. The walk through an ordered
tree meets just the nodes that names lead to, by ascending names and each before those below. -/
theorem convert_first_fault (capabilities : Capabilities) (name : String) (path : Path)
    (a : Attribute) :
    ((∃ record, (a.convert capabilities name path).result = .ok record) ↔
      ∀ node ∈ a.nodes, node.fault? capabilities path = none) ∧
    (∀ error, (a.convert capabilities name path).result = .error error ↔
      ∃ before node after, a.nodes = before ++ node :: after ∧
        node.fault? capabilities path = some error ∧
        ∀ earlier ∈ before, earlier.fault? capabilities path = none) ∧
    (a.Ordered →
      (∀ steps x, ⟨steps, x⟩ ∈ a.nodes ↔ a.node? steps = some x) ∧
      a.nodes.Pairwise fun earlier later => earlier.steps < later.steps) :=
  ⟨convert_eq_ok_iff_nodes, fun _ => convert_eq_error_iff_nodes,
    fun h => ⟨fun _ _ => mem_nodes_iff h, nodes_ascending h⟩⟩

-- Two attributes have no type. The one below the smaller name decides, though it lies deeper.
example :
    (convert .v6 "top" ⟨["top"]⟩ (ofGroup { attributes := [
      ("a", ofGroup { attributes := [("z", {})] } .forRequired), ("b", {})] } .forRequired)).result =
      .error (.missingType ⟨["top", "a", "z"]⟩) := rfl

end PluginSchema.Attribute
