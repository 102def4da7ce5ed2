import PluginSchema.Proofs.Conversion.Carried
import PluginSchema.Proofs.Nodes
import PluginSchema.Proofs.Records

/-!
# A converted tree mirrors the tree of attributes

Names lead to a record of a converted tree exactly if they lead to a node of the tree of
attributes, and then to one record only. It is the conversion of the node, so it carries of the
node what one record can carry. This says all there is to say about the converted tree: no other
tree of records mirrors the attributes.
-/

namespace PluginSchema.Attribute

open Conversion (exists_left_of_mem exists_right_of_mem)

variable {capabilities : Capabilities} {name : String} {path : Path} {a : Attribute}

/-- The records below a converted attribute are those of its children. -/
theorem children_record {nested : List Wire.Attribute}
    (h : (convertAll capabilities path a.children).result = .ok nested) :
    (a.record name nested).children = nested := by
  unfold record Wire.Attribute.children
  cases hgroup : a.group? with
  | some group => rfl
  | none =>
    rw [group?_eq_none_iff.mp hgroup, convertAll_eq_ok_iff] at h
    cases h
    rfl

/-- The records below a converted attribute are the conversions of its children, in order. -/
theorem children_of_convert {record : Wire.Attribute}
    (h : (a.convert capabilities name path).result = .ok record) :
    List.Forall₂ (fun entry child =>
      (entry.2.convert capabilities entry.1 (path.child entry.1)).result = .ok child)
      a.children record.children := by
  obtain ⟨-, nested, hnested, rfl⟩ := convert_eq_ok_iff.mp h
  rw [children_record hnested]
  exact convertAll_eq_ok_iff.mp hnested

/-- A node of a tree that converts converts by itself, and names lead to its record. -/
theorem exists_leads_of_node? {x : Attribute} (h : a.Ordered) {steps : List String}
    (hnode : a.node? steps = some x) {record : Wire.Attribute}
    (hrecord : (a.convert capabilities name path).result = .ok record) :
    ∃ target, record.Leads steps target ∧
      (x.convert capabilities (steps.getLastD name) (path.extend steps)).result = .ok target := by
  induction steps generalizing a name path record with
  | nil =>
    obtain rfl : a = x := by simpa [node?] using hnode
    exact ⟨record, .here record, by simpa using hrecord⟩
  | cons first rest ih =>
    obtain ⟨child, hchild, hrest⟩ := Option.bind_eq_some_iff.mp hnode
    have hmem := (NameMap.get?_eq_some_iff h.ascending).mp hchild
    obtain ⟨below, hbelow, hconvert⟩ := exists_right_of_mem (children_of_convert hrecord) hmem
    obtain ⟨target, hleads, htarget⟩ := ih (h.child hmem) hrest hconvert
    refine ⟨target, ?_, by rwa [List.getLastD_cons, ← Path.child_extend]⟩
    obtain rfl : below.name = first := convert_name hconvert
    exact .step hbelow hleads

/-- Names that lead to a record of a converted tree lead to a node, which has that record. -/
theorem exists_node?_of_leads {record target : Wire.Attribute} {steps : List String}
    (hleads : record.Leads steps target) (h : a.Ordered)
    (hrecord : (a.convert capabilities name path).result = .ok record) :
    ∃ x, a.node? steps = some x ∧
      (x.convert capabilities (steps.getLastD name) (path.extend steps)).result = .ok target := by
  induction hleads generalizing a name path with
  | here record => exact ⟨a, rfl, by simpa using hrecord⟩
  | step hchild _ ih =>
    obtain ⟨entry, hentry, hconvert⟩ := exists_left_of_mem (children_of_convert hrecord) hchild
    obtain ⟨x, hnode, htarget⟩ := ih (h.child hentry) hconvert
    rw [convert_name hconvert]
    refine ⟨x, ?_, by rwa [List.getLastD_cons, ← Path.child_extend]⟩
    rw [node?, (NameMap.get?_eq_some_iff h.ascending).mpr hentry]
    exact hnode

/-- The record of an attribute that converts stands for it. -/
theorem carriedBy_of_convert {record : Wire.Attribute}
    (h : (a.convert capabilities name path).result = .ok record) : a.CarriedBy name record := by
  obtain ⟨-, nested, hnested, rfl⟩ := convert_eq_ok_iff.mp h
  exact carriedBy_record (convertAll_names hnested)

/-- A tree of records mirrors a tree of attributes: the same names lead to its records and to the
nodes, they lead to one record only, and the record stands for the node under its last name. -/
structure Mirrors (name : String) (a : Attribute) (record : Wire.Attribute) : Prop where
  leads_iff : ∀ steps,
    (∃ x, a.node? steps = some x) ↔ ∃ target, record.Leads steps target
  unique : ∀ steps target other,
    record.Leads steps target → record.Leads steps other → target = other
  carried : ∀ steps x target, a.node? steps = some x → record.Leads steps target →
    x.CarriedBy (steps.getLastD name) target

/-- The record that stands for an attribute lists a record for each child, in order. -/
theorem CarriedBy.names_children {record : Wire.Attribute} (h : a.CarriedBy name record) :
    record.children.map Wire.Attribute.name = a.children.map Prod.fst := by
  have hgroup := h.group
  unfold children Wire.Attribute.children
  generalize record.nested = nested at hgroup
  generalize a.group? = group at hgroup
  cases hgroup with
  | none => rfl
  | some hobject => exact hobject.names

/-- In a mirror, the record with a child's name mirrors the child. -/
theorem Mirrors.child {record : Wire.Attribute} (h : Mirrors name a record)
    (hordered : a.Ordered) {entry : String × Attribute} (hentry : entry ∈ a.children)
    {below : Wire.Attribute} (hbelow : below ∈ record.children) (hname : below.name = entry.1) :
    Mirrors entry.1 entry.2 below := by
  have hnode (steps : List String) : a.node? (entry.1 :: steps) = entry.2.node? steps := by
    rw [node?, (NameMap.get?_eq_some_iff hordered.ascending).mpr hentry, Option.bind_some]
  have hleads (steps : List String) (target : Wire.Attribute) :
      record.Leads (entry.1 :: steps) target ↔ below.Leads steps target := by
    rw [← hname]
    exact Wire.Attribute.leads_cons_iff (h.unique [below.name]) hbelow
  refine ⟨fun steps => ?_, ?_, ?_⟩
  · simpa only [hnode, hleads] using h.leads_iff (entry.1 :: steps)
  · intro steps target other htarget hother
    exact h.unique _ target other ((hleads _ _).mpr htarget) ((hleads _ _).mpr hother)
  · intro steps x target hx htarget
    have hcarried := h.carried _ x target ((hnode steps).trans hx) ((hleads _ _).mpr htarget)
    rwa [List.getLastD_cons] at hcarried

/-- A tree of attributes has one mirror only. -/
theorem Mirrors.eq (hordered : a.Ordered) {record other : Wire.Attribute}
    (h : Mirrors name a record) (hother : Mirrors name a other) : record = other := by
  induction a using childrenInduction generalizing name record other with
  | step a ih =>
    have hcarried : a.CarriedBy name record := h.carried [] a record rfl (.here record)
    have hcarried' : a.CarriedBy name other := hother.carried [] a other rfl (.here other)
    refine hcarried.unique hcarried' ?_
    have hnames := hcarried.names_children
    -- Both lists of records run along the same names, so records at one place have one name.
    refine Wire.Attribute.eq_of_map_name_eq (hnames.trans hcarried'.names_children.symm) ?_
    intro below hbelow below' hbelow' hname
    obtain ⟨entry, hentry, hfirst⟩ : ∃ entry ∈ a.children, entry.1 = below.name := by
      rw [← List.mem_map, ← hnames]
      exact List.mem_map_of_mem hbelow
    exact ih entry hentry (hordered.child hentry)
      (h.child hordered hentry hbelow hfirst.symm)
      (hother.child hordered hentry hbelow' (hname.symm.trans hfirst.symm))

/-- The record of a tree that converts mirrors it. -/
theorem mirrors_of_convert (h : a.Ordered) {record : Wire.Attribute}
    (hrecord : (a.convert capabilities name path).result = .ok record) :
    Mirrors name a record := by
  refine ⟨fun steps => ⟨?_, ?_⟩, ?_, ?_⟩
  · rintro ⟨x, hnode⟩
    obtain ⟨target, hleads, -⟩ := exists_leads_of_node? h hnode hrecord
    exact ⟨target, hleads⟩
  · rintro ⟨target, hleads⟩
    obtain ⟨x, hnode, -⟩ := exists_node?_of_leads hleads h hrecord
    exact ⟨x, hnode⟩
  · intro steps target other htarget hother
    obtain ⟨x, hx, hconvert⟩ := exists_node?_of_leads htarget h hrecord
    obtain ⟨y, hy, hconvert'⟩ := exists_node?_of_leads hother h hrecord
    obtain rfl : x = y := Option.some.inj (hx.symm.trans hy)
    exact Except.ok.inj (hconvert.symm.trans hconvert')
  · intro steps x target hx htarget
    obtain ⟨y, hy, hconvert⟩ := exists_node?_of_leads htarget h hrecord
    obtain rfl : x = y := Option.some.inj (hx.symm.trans hy)
    exact carriedBy_of_convert hconvert

/-- The record of a tree that converts is its mirror, and nothing else is. -/
theorem convert_mirrors (capabilities : Capabilities) (name : String) (path : Path)
    (a : Attribute) (h : a.Ordered) (record : Wire.Attribute)
    (hrecord : (a.convert capabilities name path).result = .ok record) :
    Mirrors name a record ∧ ∀ other, Mirrors name a other → other = record := by
  have hmirrors := mirrors_of_convert h hrecord
  exact ⟨hmirrors, fun other hother => hother.eq h hmirrors⟩

/-- A list of objects with two attributes each. -/
def endpoints : Attribute :=
  ofGroup {
    mode := .list
    attributes := [("host", ofType .string .forRequired), ("port", ofType .int64 .forOptional)]
    minItems := 1 } .forRequired

/-- The number of a port reaches the wire under its name, as a number like any other. -/
theorem convert_mirrors_endpoints :
    ∃ record, endpoints.Ordered ∧
      (endpoints.convert .v6 "endpoints" .root).result = .ok record ∧
      ∃ target, record.Leads ["port"] target ∧
        (ofType .int64 .forOptional).CarriedBy "port" target := by
  have hordered : endpoints.Ordered := by
    refine ordered_ofGroup (by decide) ?_ _
    simp only [List.forall_mem_cons]
    exact ⟨ordered_ofType .string _, ordered_ofType .int64 _, by simp⟩
  have hrecord : (endpoints.convert .v6 "endpoints" .root).result =
      .ok (endpoints.record "endpoints" [(ofType .string .forRequired).record "host" [],
        (ofType .int64 .forOptional).record "port" []]) := rfl
  obtain ⟨hmirrors, -⟩ := convert_mirrors .v6 "endpoints" .root endpoints hordered _ hrecord
  obtain ⟨target, htarget⟩ := (hmirrors.leads_iff ["port"]).mp ⟨_, rfl⟩
  exact ⟨_, hordered, hrecord, target, htarget, hmirrors.carried _ _ target rfl htarget⟩

end PluginSchema.Attribute
