import PluginSchema.Proofs.Ordered

/-!
# The nodes of a tree of attributes

A node of a tree is addressed by the names that lead to it from the top. `node?` follows such
names, and `nodes` walks the whole tree: an attribute comes before those nested in it, and
siblings come in the order of their map. In an ordered tree both agree, and the walk meets the
addresses in ascending order, where a beginning of an address is below the address.
-/

namespace PluginSchema.Attribute

/-- An attribute in a tree, with the names that lead to it. -/
structure Node where
  steps : List String
  value : Attribute

namespace Node

/-- The same attribute, seen from one step further up. -/
def below (name : String) (node : Node) : Node := { node with steps := name :: node.steps }

@[simp] theorem below_steps (name : String) (node : Node) :
    (node.below name).steps = name :: node.steps := rfl

@[simp] theorem below_value (name : String) (node : Node) :
    (node.below name).value = node.value := rfl

end Node

/-- The attribute that names lead to, if there is one. -/
def node? (a : Attribute) : List String → Option Attribute
  | [] => some a
  | name :: rest => (a.children.get? name).bind fun child => child.node? rest

mutual

/-- All attributes of a tree, each before those nested in it. -/
def nodes : Attribute → List Node
  | ⟨type, none, flags, texts⟩ => [⟨[], ⟨type, none, flags, texts⟩⟩]
  | ⟨type, some ⟨mode, attributes, low, high⟩, flags, texts⟩ =>
    ⟨[], ⟨type, some ⟨mode, attributes, low, high⟩, flags, texts⟩⟩ :: nodesBelow attributes

/-- All attributes of the trees that stand under names, tree after tree. -/
def nodesBelow : List (String × Attribute) → List Node
  | [] => []
  | (name, first) :: rest => first.nodes.map (Node.below name) ++ nodesBelow rest

end

/-- The walk begins at the top and goes on below it. -/
theorem nodes_eq (a : Attribute) : a.nodes = ⟨[], a⟩ :: nodesBelow a.children := by
  rcases a with ⟨type, _ | ⟨mode, attributes, low, high⟩, flags, texts⟩ <;>
    simp [nodes, nodesBelow]

/-- A node below a list of trees is a node of one of them, one step further down. -/
theorem mem_nodesBelow {entries : List (String × Attribute)} {node : Node} :
    node ∈ nodesBelow entries ↔
      ∃ entry ∈ entries, ∃ inner ∈ entry.2.nodes, node = inner.below entry.1 := by
  induction entries with
  | nil => simp [nodesBelow]
  | cons entry rest ih => simp [nodesBelow, ih, eq_comm]

/-- What is found first entry by entry is found first on the walk through the entries. -/
theorem findSome?_nodesBelow {β : Type} {f : Node → Option β} {g : String × Attribute → Option β}
    {entries : List (String × Attribute)}
    (h : ∀ entry ∈ entries,
      g entry = entry.2.nodes.findSome? fun node => f (node.below entry.1)) :
    entries.findSome? g = (nodesBelow entries).findSome? f := by
  induction entries with
  | nil => rfl
  | cons entry rest ih =>
    obtain ⟨hentry, hrest⟩ := List.forall_mem_cons.mp h
    rw [List.findSome?_cons, hentry, ih hrest, nodesBelow, List.findSome?_append,
      List.findSome?_map, Function.comp_def]
    cases entry.2.nodes.findSome? fun node => f (node.below entry.1) <;> rfl

/-- The names of a node of an ordered tree lead to it, and names lead to nodes only. -/
theorem mem_nodes_iff {a : Attribute} (h : a.Ordered) {steps : List String} {x : Attribute} :
    ⟨steps, x⟩ ∈ a.nodes ↔ a.node? steps = some x := by
  induction steps generalizing a with
  | nil =>
    rw [nodes_eq, List.mem_cons, mem_nodesBelow, node?]
    simp [Node.below, eq_comm]
  | cons name rest ih =>
    rw [nodes_eq, List.mem_cons, mem_nodesBelow, node?, Option.bind_eq_some_iff]
    simp only [Node.mk.injEq, reduceCtorEq, false_and, false_or]
    constructor
    · rintro ⟨⟨name', child⟩, hchild, ⟨steps, y⟩, hnode, heq⟩
      obtain ⟨⟨rfl, rfl⟩, rfl⟩ : (name = name' ∧ rest = steps) ∧ x = y := by
        simpa [Node.below] using heq
      exact ⟨child, (NameMap.get?_eq_some_iff h.ascending).mpr hchild,
        (ih (h.child hchild)).mp hnode⟩
    · rintro ⟨child, hchild, hnode⟩
      have hmem := (NameMap.get?_eq_some_iff h.ascending).mp hchild
      exact ⟨(name, child), hmem, ⟨rest, x⟩, (ih (h.child hmem)).mpr hnode, rfl⟩

/-- The walk through trees under ascending names meets ascending addresses, if it does so in
each tree. -/
theorem nodesBelow_ascending {entries : List (String × Attribute)}
    (h : NameMap.Ascending entries)
    (hbelow : ∀ entry ∈ entries, entry.2.nodes.Pairwise fun x y => x.steps < y.steps) :
    (nodesBelow entries).Pairwise fun x y => x.steps < y.steps := by
  induction entries with
  | nil => exact List.Pairwise.nil
  | cons entry rest ih =>
    obtain ⟨hfirst, hrest⟩ := List.pairwise_cons.mp h
    obtain ⟨hentry, hothers⟩ := List.forall_mem_cons.mp hbelow
    rw [nodesBelow, List.pairwise_append]
    refine ⟨?_, ih hrest hothers, ?_⟩
    · -- within one tree the first step is shared
      rw [List.pairwise_map]
      exact hentry.imp fun hlt => List.Lex.cons hlt
    · -- between two trees the first step decides
      intro x hx y hy
      obtain ⟨inner, -, rfl⟩ := List.mem_map.mp hx
      obtain ⟨other, hother, node, -, rfl⟩ := mem_nodesBelow.mp hy
      exact List.Lex.rel (hfirst other hother)

/-- The walk through an ordered tree meets its addresses in ascending order. -/
theorem nodes_ascending {a : Attribute} (h : a.Ordered) :
    a.nodes.Pairwise fun x y => x.steps < y.steps := by
  induction a using childrenInduction with
  | step a ih =>
    rw [nodes_eq, List.pairwise_cons]
    have hbelow (entry : String × Attribute) (hentry : entry ∈ a.children) :
        entry.2.nodes.Pairwise fun x y => x.steps < y.steps :=
      ih entry hentry (h.child hentry)
    refine ⟨?_, nodesBelow_ascending h.ascending hbelow⟩
    intro node hnode
    obtain ⟨entry, -, inner, -, rfl⟩ := mem_nodesBelow.mp hnode
    exact List.Lex.nil

end PluginSchema.Attribute
