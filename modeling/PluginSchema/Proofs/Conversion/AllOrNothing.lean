import PluginSchema.Proofs.Conversion.FirstFault
import PluginSchema.Proofs.Conversion.SchemaResult

/-!
# A plugin's schemas convert all or not at all

The conversion of a plugin's schemas succeeds exactly if every attribute of every block converts
by itself, and each schema then stands under its own name. Otherwise the error is that of the
first schema that does not convert, and its path leads to an attribute that is refused by itself.
-/

namespace PluginSchema

open Conversion (Run)

/-- An attribute is refused at the path where it stands. -/
theorem Attribute.path?_of_fault? {capabilities : Capabilities} {path : Path} {a : Attribute}
    {error : SchemaError} (h : a.fault? capabilities path = some error) :
    error.path? = some path := by
  unfold fault? at h
  split_ifs at h <;> cases h <;> rfl

/-- The attribute of a block that names lead to, if there is one. -/
def Block.node? (block : Block) : List String → Option Attribute
  | [] => none
  | name :: rest => (NameMap.get? block.attributes name).bind fun a => a.node? rest

namespace Schema

/-- A schema converts just if each of its attributes converts by itself. -/
theorem convert_ok_iff {capabilities : Capabilities} {schema : Schema} :
    (∃ wire, (schema.convert capabilities).result = .ok wire) ↔
      ∀ entry ∈ schema.block.attributes, ∃ record,
        (entry.2.convert capabilities entry.1 (Path.root.child entry.1)).result = .ok record := by
  simp only [← Run.error?_eq_none_iff]
  rw [convert_error?, Attribute.convertAll_error?, List.findSome?_eq_none_iff]

/-- The error of a schema names an attribute below the block that is refused by itself. -/
theorem exists_node?_of_convert_error {capabilities : Capabilities} {schema : Schema}
    (hordered : schema.block.Ordered) {error : SchemaError}
    (h : (schema.convert capabilities).result = .error error) :
    ∃ steps x, steps ≠ [] ∧ error.path? = some ⟨steps⟩ ∧ schema.block.node? steps = some x ∧
      x.check capabilities ⟨steps⟩ = .error error := by
  rw [← Run.error?_eq_some_iff, convert_error?, Attribute.convertAll_error?,
    List.findSome?_eq_some_iff] at h
  obtain ⟨before, ⟨name, a⟩, after, hsplit, herror, -⟩ := h
  rw [Run.error?_eq_some_iff, Attribute.convert_eq_error_iff_nodes] at herror
  obtain ⟨nodesBefore, node, nodesAfter, hnodes, hfault, -⟩ := herror
  have hentry : (name, a) ∈ schema.block.attributes := by simp [hsplit]
  have hnode : node ∈ a.nodes := by simp [hnodes]
  have hfault' : node.value.fault? capabilities ⟨name :: node.steps⟩ = some error := hfault
  refine ⟨name :: node.steps, node.value, List.cons_ne_nil _ _,
    Attribute.path?_of_fault? hfault', ?_, ?_⟩
  · rw [Block.node?, (NameMap.get?_eq_some_iff hordered.ascending).mpr hentry]
    exact (Attribute.mem_nodes_iff (hordered.below _ hentry)).mp hnode
  · rw [Attribute.check_eq, hfault']

/-- A wire schema is the conversion of a schema: its version is cut off at the greatest one of the
wire, and its attributes ascend. -/
structure ConvertsTo (capabilities : Capabilities) (schema : Schema) (wire : Wire.Schema) :
    Prop where
  result : (schema.convert capabilities).result = .ok wire
  version : wire.version.toInt = min (schema.version.toNat : Int) (2 ^ 63 - 1)
  ascending : (wire.block.attributes.map Wire.Attribute.name).Pairwise (· < ·)

/-- Whatever an ordered schema yields is its conversion. -/
theorem convertsTo_of_convert {capabilities : Capabilities} {schema : Schema}
    (hordered : schema.block.Ordered) {wire : Wire.Schema}
    (h : (schema.convert capabilities).result = .ok wire) :
    schema.ConvertsTo capabilities wire := by
  refine ⟨h, ?_, ?_⟩
  all_goals obtain ⟨attributes, hattributes, rfl⟩ := convert_eq_ok_iff.mp h
  · exact toInt_saturated schema.version
  · rw [record, Attribute.convertAll_names hattributes, List.pairwise_map]
    exact hordered.ascending

/-- Wire schemas are the conversions of schemas, name by name. -/
structure EachConvertsTo (capabilities : Capabilities) (entries : List (String × Schema))
    (wires : List (String × Wire.Schema)) : Prop where
  names : wires.map Prod.fst = entries.map Prod.fst
  entry : ∀ name, Option.Rel (ConvertsTo capabilities) (NameMap.get? entries name)
    (NameMap.get? wires name)

/-- Whatever ordered schemas under names yield are their conversions. -/
theorem eachConvertsTo_of_convertAll {capabilities : Capabilities}
    {announce : String → Conversion.Event} {entries : List (String × Schema)}
    (hordered : ∀ entry ∈ entries, entry.2.block.Ordered) {wires : List (String × Wire.Schema)}
    (h : (convertAll capabilities announce entries).result = .ok wires) :
    EachConvertsTo capabilities entries wires := by
  rw [convertAll_eq_ok_iff] at h
  induction h with
  | nil => exact ⟨rfl, fun name => .none⟩
  | cons hfirst _ ih =>
    obtain ⟨hconvert, hname⟩ := hfirst
    obtain ⟨hentry, hrest⟩ := List.forall_mem_cons.mp hordered
    obtain ⟨hnames, hentries⟩ := ih hrest
    refine ⟨by rw [List.map_cons, List.map_cons, hnames, hname], fun name => ?_⟩
    rw [NameMap.get?_cons, NameMap.get?_cons, hname]
    split
    · exact .some (convertsTo_of_convert hentry hconvert)
    · exact hentries name

end Schema

namespace ProviderSchema

/-- All schemas of a plugin, in the order in which they are converted. -/
def all (schemas : ProviderSchema) : List Schema :=
  schemas.provider :: (schemas.resources.map Prod.snd ++ schemas.dataSources.map Prod.snd)

/-- The schemas of a plugin yield what the parts yield. -/
theorem convert_eq_ok_iff {capabilities : Capabilities} {schemas : ProviderSchema}
    {wires : Wire.ProviderSchema} :
    (schemas.convert capabilities).result = .ok wires ↔
      (schemas.provider.convert capabilities).result = .ok wires.provider ∧
      (Schema.convertAll capabilities .resourceStarted schemas.resources).result =
        .ok wires.resources ∧
      (Schema.convertAll capabilities .dataSourceStarted schemas.dataSources).result =
        .ok wires.dataSources := by
  rcases wires with ⟨provider, resources, dataSources⟩
  simp [convert, convertEach, Run.result_bind_eq_ok_iff, -bind_pure_comp]

/-- The error of a plugin's schemas is that of the first one with an error. -/
theorem convert_error? (capabilities : Capabilities) (schemas : ProviderSchema) :
    (schemas.convert capabilities).error? =
      schemas.all.findSome? fun schema => (schema.convert capabilities).error? := by
  have hparts : (schemas.convertEach capabilities).error? =
      (schemas.provider.convert capabilities).error?.or
        ((Schema.convertAll capabilities .resourceStarted schemas.resources).error?.or
          (Schema.convertAll capabilities .dataSourceStarted schemas.dataSources).error?) := by
    rw [convertEach, Run.error?_bind fun _ _ => Run.error?_bind fun _ _ => Run.error?_bind_pure _ _]
  rw [all, List.findSome?_cons, List.findSome?_append, List.findSome?_map, List.findSome?_map]
  change (schemas.convertEach capabilities).error? = _
  rw [hparts, Schema.convertAll_error?, Schema.convertAll_error?]
  cases (schemas.provider.convert capabilities).error? <;> rfl

/-- The schemas of an ordered plugin have ordered blocks. -/
theorem Ordered.of_mem_all {schemas : ProviderSchema} (h : schemas.Ordered) {schema : Schema}
    (hschema : schema ∈ schemas.all) : schema.block.Ordered := by
  simp only [all, List.mem_cons, List.mem_append, List.mem_map] at hschema
  rcases hschema with rfl | ⟨entry, hentry, rfl⟩ | ⟨entry, hentry, rfl⟩
  · exact h.provider
  · exact h.resource entry hentry
  · exact h.dataSource entry hentry

/-- The conversion of a plugin's schemas fails with an error exactly if it is the error of the
first schema that has one. -/
theorem convert_eq_error_iff {capabilities : Capabilities} {schemas : ProviderSchema}
    {error : SchemaError} :
    (schemas.convert capabilities).result = .error error ↔
      ∃ before schema after, schemas.all = before ++ schema :: after ∧
        (schema.convert capabilities).result = .error error ∧
        ∀ earlier ∈ before, ∃ wire, (earlier.convert capabilities).result = .ok wire := by
  simp only [← Run.error?_eq_some_iff, ← Run.error?_eq_none_iff]
  rw [convert_error?, List.findSome?_eq_some_iff]

/-- The schemas of a plugin convert exactly if every attribute of every block converts by itself,
and then each name has the conversion of its schema. Otherwise the error is that of the first
schema with one, and leads to an attribute of that schema that is refused by itself. -/
theorem convert_all_or_nothing (capabilities : Capabilities) (schemas : ProviderSchema)
    (h : schemas.Ordered) :
    ((∃ wires, (schemas.convert capabilities).result = .ok wires) ↔
      ∀ schema ∈ schemas.all, ∀ entry ∈ schema.block.attributes, ∃ record,
        (entry.2.convert capabilities entry.1 (Path.root.child entry.1)).result = .ok record) ∧
    (∀ wires, (schemas.convert capabilities).result = .ok wires →
      schemas.provider.ConvertsTo capabilities wires.provider ∧
      Schema.EachConvertsTo capabilities schemas.resources wires.resources ∧
      Schema.EachConvertsTo capabilities schemas.dataSources wires.dataSources) ∧
    (∀ error, (schemas.convert capabilities).result = .error error ↔
      ∃ before schema after, schemas.all = before ++ schema :: after ∧
        (∀ earlier ∈ before, ∃ wire, (earlier.convert capabilities).result = .ok wire) ∧
        (schema.convert capabilities).result = .error error ∧
        ∃ steps x, steps ≠ [] ∧ error.path? = some ⟨steps⟩ ∧
          schema.block.node? steps = some x ∧ x.check capabilities ⟨steps⟩ = .error error) := by
  refine ⟨?_, fun wires hwires => ?_, fun error => ⟨fun herror => ?_, ?_⟩⟩
  · rw [← Run.error?_eq_none_iff, convert_error?, List.findSome?_eq_none_iff]
    simp only [Run.error?_eq_none_iff, Schema.convert_ok_iff]
  · obtain ⟨hprovider, hresources, hdataSources⟩ := convert_eq_ok_iff.mp hwires
    exact ⟨Schema.convertsTo_of_convert h.provider hprovider,
      Schema.eachConvertsTo_of_convertAll h.resource hresources,
      Schema.eachConvertsTo_of_convertAll h.dataSource hdataSources⟩
  · obtain ⟨before, schema, after, hall, hschema, hbefore⟩ := convert_eq_error_iff.mp herror
    have hordered : schema.block.Ordered := h.of_mem_all (by simp [hall])
    exact ⟨before, schema, after, hall, hbefore, hschema,
      Schema.exists_node?_of_convert_error hordered hschema⟩
  · rintro ⟨before, schema, after, hall, hbefore, hschema, -⟩
    exact convert_eq_error_iff.mpr ⟨before, schema, after, hall, hschema, hbefore⟩

/-- Two resources and a data source. Nobody sets the size of a volume or the image, and the disk
is in order. -/
def storage : ProviderSchema where
  resources := [
    ("disk", { block := { attributes := [("size", .ofType .number .forRequired)] } }),
    ("volume", { block := { attributes := [("size", .ofType .number {})] } })]
  dataSources := [("image", { block := { attributes := [("name", .ofType .string {})] } })]

/-- The volume is the first to fail, so its error is that of the plugin. -/
theorem convert_all_or_nothing_storage :
    storage.Ordered ∧
      (storage.convert .v5).result = .error (.missingConstraint ⟨["size"]⟩) := by
  have hblock (name : String) (type : AttributeType) (htype : type.Ordered) (flags : Flags) :
      Block.Ordered { attributes := [(name, .ofType type flags)] } :=
    ⟨List.pairwise_singleton _ _, by simpa using Attribute.ordered_ofType htype flags⟩
  have hordered : storage.Ordered := by
    refine ⟨⟨List.Pairwise.nil, by simp [storage]⟩, by decide, by decide, ?_, ?_⟩ <;>
      simp only [storage, List.forall_mem_cons]
    · exact ⟨hblock _ _ .number _, hblock _ _ .number _, by simp⟩
    · exact ⟨hblock _ _ .string _, by simp⟩
  refine ⟨hordered, ((convert_all_or_nothing .v5 storage hordered).2.2 _).mpr ?_⟩
  refine ⟨storage.all.take 2, _, storage.all.drop 3, rfl, ?_, rfl, ["size"], _, by simp, rfl, rfl,
    rfl⟩
  simp only [storage, all, List.map_cons, List.cons_append, List.take_succ_cons, List.take_zero,
    List.forall_mem_cons]
  exact ⟨⟨_, rfl⟩, ⟨_, rfl⟩, by simp⟩

end ProviderSchema

end PluginSchema
