import PluginSchema.Wire.Schema

/-!
# The records of a tree on the wire

A record holds its nested records in a list, each with its own name, so nothing in the shape of a
record keeps two of them from having one name. The names that lead to a record are therefore a
relation here, and that they lead to one record at most is a property of some trees.
-/

namespace PluginSchema.Wire.Attribute

/-- The records nested just below a record. -/
def children (record : Wire.Attribute) : List Wire.Attribute :=
  match record.nested with
  | some object => object.attributes
  | none => []

/-- Names lead from a record, through the records nested in it, to a record. -/
inductive Leads : Wire.Attribute → List String → Wire.Attribute → Prop
  | here (record : Wire.Attribute) : Leads record [] record
  | step {record child target : Wire.Attribute} {rest : List String}
      (hchild : child ∈ record.children) (hrest : Leads child rest target) :
      Leads record (child.name :: rest) target

mutual

/-- Induction over a tree of records: what holds of a record whenever it holds of the records
just below it holds of every record. -/
theorem childrenInduction {motive : Wire.Attribute → Prop}
    (step : ∀ record : Wire.Attribute, (∀ child ∈ record.children, motive child) → motive record) :
    (record : Wire.Attribute) → motive record
  | ⟨name, type, none, description, flags, deprecated⟩ => step _ (by simp [children])
  | ⟨name, type, some ⟨attributes, nesting, low, high⟩, description, flags, deprecated⟩ =>
    step _ (childrenInductionBelow step attributes)

/-- Induction over a tree of records, for the records of a list. -/
theorem childrenInductionBelow {motive : Wire.Attribute → Prop}
    (step : ∀ record : Wire.Attribute, (∀ child ∈ record.children, motive child) → motive record) :
    (records : List Wire.Attribute) → ∀ record ∈ records, motive record
  | [] => by simp
  | first :: rest =>
    List.forall_mem_cons.mpr ⟨childrenInduction step first, childrenInductionBelow step rest⟩

end

/-- Below a child whose name no other child has, names lead to what they lead to past it. -/
theorem leads_cons_iff {record child : Wire.Attribute}
    (hunique : ∀ target other, record.Leads [child.name] target →
      record.Leads [child.name] other → target = other)
    (hchild : child ∈ record.children) {rest : List String} {target : Wire.Attribute} :
    record.Leads (child.name :: rest) target ↔ child.Leads rest target := by
  refine ⟨fun h => ?_, fun h => .step hchild h⟩
  generalize hname : child.name = name at h
  cases h with
  | @step _ other _ _ hmem hrest =>
    -- Names lead one step down to both, each under its own name, which is the same.
    obtain rfl : child = other :=
      hunique child other (.step hchild (.here child)) (hname ▸ .step hmem (.here other))
    exact hrest

/-- What holds of every record that names lead to holds of the records below each child. -/
theorem Leads.forall_below {record : Wire.Attribute} {motive : Wire.Attribute → Prop}
    (h : ∀ steps target, Leads record steps target → motive target) {child : Wire.Attribute}
    (hchild : child ∈ record.children) :
    ∀ steps target, Leads child steps target → motive target :=
  fun _ target hleads => h _ target (.step hchild hleads)

/-- Lists with the same names in the same order are equal, if records with one name are. -/
theorem eq_of_map_name_eq {records others : List Wire.Attribute}
    (hnames : records.map name = others.map name)
    (h : ∀ record ∈ records, ∀ other ∈ others, record.name = other.name → record = other) :
    records = others := by
  induction records generalizing others with
  | nil => simpa using hnames.symm
  | cons record records ih =>
    cases others with
    | nil => cases hnames
    | cons other others =>
      obtain ⟨hname, hrest⟩ := List.cons.inj hnames
      rw [h record (.head _) other (.head _) hname]
      rw [ih hrest fun x hx y hy => h x (.tail _ hx) y (.tail _ hy)]

end PluginSchema.Wire.Attribute
