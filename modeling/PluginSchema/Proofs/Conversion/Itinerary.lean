import PluginSchema.Log.Record
import PluginSchema.Proofs.Conversion.Verdict

/-!
# What a conversion reports

A conversion goes through the places of a plugin's schemas in a fixed order: the attributes of the
configuration, then each resource and its attributes, then each data source and its attributes,
every attribute before those nested in it. It reports each place on arrival, and at the first
fault it reports that and stops. So the events of a run are known from the places and their faults
alone, and they agree with the result.
-/

namespace PluginSchema

open Attribute (Node nodesBelow)

namespace Conversion

/-- A place on the way through the schemas of a plugin. -/
inductive Place where
  | node (x : Node)
  | resource (name : String)
  | dataSource (name : String)

namespace Place

/-- What is reported on arrival. An attribute has the last of the names that lead to it. -/
def event : Place → Event
  | node x => .attributeStarted (x.steps.getLastD "") ⟨x.steps⟩
  | resource name => .resourceStarted name
  | dataSource name => .dataSourceStarted name

/-- What is wrong at a place. -/
def fault? (capabilities : Capabilities) : Place → Option SchemaError
  | node x => x.fault? capabilities .root
  | resource _ | dataSource _ => none

/-- What is reported of a fault. -/
def refusal? (capabilities : Capabilities) : Place → Option Event
  | node x => (x.fault? capabilities .root).map (.attributeRefused ⟨x.steps⟩)
  | resource _ | dataSource _ => none

/-- A fault is reported just if there is one. -/
theorem refusal?_eq_none_iff {capabilities : Capabilities} {place : Place} :
    place.refusal? capabilities = none ↔ place.fault? capabilities = none := by
  cases place <;> simp [refusal?, fault?]

/-- Only an attribute has a fault, and the fault names the path of the attribute. -/
theorem eq_node_of_fault? {capabilities : Capabilities} {place : Place} {error : SchemaError}
    (h : place.fault? capabilities = some error) :
    ∃ x, place = .node x ∧ error.path? = some ⟨x.steps⟩ := by
  cases place with
  | node x => exact ⟨x, rfl, Attribute.path?_of_fault? h⟩
  | resource name => cases h
  | dataSource name => cases h

end Place

/-- The events on a way through places: one for each, up to the report of the first fault. -/
def reports (capabilities : Capabilities) : List Place → List Event
  | [] => []
  | place :: rest =>
    place.event ::
      match place.refusal? capabilities with
      | none => reports capabilities rest
      | some refusal => [refusal]

section Reports

variable {capabilities : Capabilities} {places : List Place}

/-- A way without a fault is reported place by place, and goes on. -/
theorem reports_append (h : places.findSome? (Place.fault? capabilities) = none)
    (further : List Place) :
    reports capabilities (places ++ further) =
      places.map Place.event ++ reports capabilities further := by
  rw [List.findSome?_eq_none_iff] at h
  induction places with
  | nil => rfl
  | cons place rest ih =>
    obtain ⟨hplace, hrest⟩ := List.forall_mem_cons.mp h
    rw [List.cons_append, reports, Place.refusal?_eq_none_iff.mpr hplace, List.map_cons,
      List.cons_append, ← ih hrest]

/-- A way without a fault is reported place by place. -/
theorem reports_eq_map (h : places.findSome? (Place.fault? capabilities) = none) :
    reports capabilities places = places.map Place.event := by
  simpa [reports] using reports_append h []

/-- Where a way ends with a fault, nothing is reported of places further on. -/
theorem reports_append_of_fault {error : SchemaError}
    (h : places.findSome? (Place.fault? capabilities) = some error) (further : List Place) :
    reports capabilities (places ++ further) = reports capabilities places := by
  obtain ⟨before, place, after, rfl, hfault, hbefore⟩ := List.findSome?_eq_some_iff.mp h
  have hnone : before.findSome? (Place.fault? capabilities) = none :=
    List.findSome?_eq_none_iff.mpr hbefore
  obtain ⟨refusal, hrefusal⟩ : ∃ refusal, place.refusal? capabilities = some refusal := by
    rw [← Option.ne_none_iff_exists', ne_eq, Place.refusal?_eq_none_iff, hfault]
    exact Option.some_ne_none error
  rw [List.append_assoc, List.cons_append, reports_append hnone, reports_append hnone, reports,
    reports, hrefusal]

end Reports

namespace Run

variable {α β : Type} {capabilities : Capabilities} {places further : List Place}

/-- A run goes through places: it reports them up to the first fault, and ends with that fault. -/
structure Visits (capabilities : Capabilities) (run : Run α) (places : List Place) : Prop where
  events : run.events = reports capabilities places
  error? : run.error? = places.findSome? (Place.fault? capabilities)

/-- A value is there without going anywhere. -/
theorem visits_pure (value : α) : (pure value : Run α).Visits capabilities [] := ⟨rfl, rfl⟩

/-- A run that reports a place without fault goes there. -/
theorem visits_report {place : Place} (h : place.fault? capabilities = none) :
    (report place.event).Visits capabilities [place] where
  events := by rw [reports, Place.refusal?_eq_none_iff.mpr h]; rfl
  error? := by rw [List.findSome?_cons, h]; rfl

/-- Two parts go one way after the other. -/
theorem Visits.bind {run : Run α} {next : α → Run β} (h : run.Visits capabilities places)
    (hnext : ∀ value, run.result = .ok value → (next value).Visits capabilities further) :
    (run >>= next).Visits capabilities (places ++ further) := by
  refine ⟨?_, ?_⟩
  · cases hresult : run.result with
    | ok value =>
      have hfaults : places.findSome? (Place.fault? capabilities) = none := by
        rw [← h.error?, error?_eq_none_iff]
        exact ⟨value, hresult⟩
      rw [bind_eq, andThen, hresult, reports_append hfaults, ← reports_eq_map hfaults, ← h.events,
        ← (hnext value hresult).events]
    | error error =>
      have hfault : places.findSome? (Place.fault? capabilities) = some error := by
        rw [← h.error?, error?_eq_some_iff]
        exact hresult
      rw [bind_eq, andThen, hresult, reports_append_of_fault hfault, ← h.events]
  · rw [error?_bind fun value hvalue => (hnext value hvalue).error?, h.error?,
      List.findSome?_append]

/-- A last step that yields a value goes nowhere. -/
theorem Visits.bind_pure {run : Run α} (h : run.Visits capabilities places) (f : α → β) :
    (run >>= fun value => pure (f value)).Visits capabilities places := by
  have hboth := h.bind fun value _ => visits_pure (f value)
  rwa [List.append_nil] at hboth

end Run

/-- The place of a node in a tree at a path. -/
def Place.ofNode (path : Path) (node : Node) : Place :=
  .node ⟨(path.extend node.steps).steps, node.value⟩

/-- Seen from one step further up, a node is at the same place. -/
theorem Place.ofNode_below (path : Path) (name : String) (node : Node) :
    ofNode path (node.below name) = ofNode (path.child name) node := by
  simp [ofNode]

/-- From the root, the steps of a node are those of its place. -/
theorem Place.ofNode_root (node : Node) : ofNode .root node = .node node := by
  simp [ofNode, Path.extend, Path.root]

end Conversion

open Conversion (Event Run Place reports)

namespace Attribute

variable {capabilities : Capabilities}

/-- An announcement goes to the attribute only. -/
theorem announce_visits (capabilities : Capabilities) (name : String) (path : Path)
    (a : Attribute) :
    (a.announce capabilities name (path.child name)).Visits capabilities
      [.ofNode (path.child name) ⟨[], a⟩] := by
  have hextend : Path.root.extend (path.steps ++ [name]) = path.child name := by
    simp [Path.extend, Path.root, Path.child]
  have hfault : (Place.ofNode (path.child name) ⟨[], a⟩).fault? capabilities =
      a.fault? capabilities (path.child name) := by
    simp [Place.fault?, Place.ofNode, Node.fault?, Path.child, hextend]
  refine ⟨?_, ?_⟩
  · have hevent : (Place.ofNode (path.child name) ⟨[], a⟩).event =
        .attributeStarted name (path.child name) := by
      simp [Place.event, Place.ofNode, Path.child]
    have hrefusal : (Place.ofNode (path.child name) ⟨[], a⟩).refusal? capabilities =
        (a.fault? capabilities (path.child name)).map (.attributeRefused (path.child name)) := by
      simp [Place.refusal?, Place.ofNode, Node.fault?, Path.child, hextend]
    rw [reports, hevent, hrefusal, announce, check_eq]
    cases a.fault? capabilities (path.child name) <;> rfl
  · rw [announce_error?, List.findSome?_cons, hfault]
    cases a.fault? capabilities (path.child name) <;> rfl

/-- A conversion of attributes in their order goes through the trees in this order. -/
theorem convertAll_visits_of_forall {path : Path} {entries : List (String × Attribute)}
    (h : ∀ entry ∈ entries, (entry.2.convert capabilities entry.1 (path.child entry.1)).Visits
      capabilities (entry.2.nodes.map (.ofNode (path.child entry.1)))) :
    (convertAll capabilities path entries).Visits capabilities
      ((nodesBelow entries).map (.ofNode path)) := by
  induction entries with
  | nil => exact Run.visits_pure _
  | cons entry rest ih =>
    obtain ⟨hentry, hrest⟩ := List.forall_mem_cons.mp h
    have hfirst : (entry.2.nodes.map (Node.below entry.1)).map (Place.ofNode path) =
        entry.2.nodes.map (.ofNode (path.child entry.1)) := by
      rw [List.map_map]
      exact List.map_congr_left fun node _ => Place.ofNode_below path entry.1 node
    rw [nodesBelow, List.map_append, hfirst, convertAll]
    exact hentry.bind fun first _ => (ih hrest).bind_pure fun others => first :: others

/-- A conversion goes through the nodes of the tree. -/
theorem convert_visits (capabilities : Capabilities) (name : String) (path : Path)
    (a : Attribute) :
    (a.convert capabilities name (path.child name)).Visits capabilities
      (a.nodes.map (.ofNode (path.child name))) := by
  induction a using childrenInduction generalizing name path with
  | step a ih =>
    have hchildren : (convertAll capabilities (path.child name) a.children).Visits capabilities
        ((nodesBelow a.children).map (.ofNode (path.child name))) :=
      convertAll_visits_of_forall fun entry hentry => ih entry hentry entry.1 (path.child name)
    rw [convert_eq, nodes_eq, List.map_cons]
    exact (announce_visits capabilities name path a).bind fun _ _ => hchildren.bind_pure _

end Attribute

namespace Block

/-- The nodes of an ordered block are those that names lead to. -/
theorem mem_nodesBelow_iff {block : Block} (h : block.Ordered) {steps : List String}
    {x : Attribute} : ⟨steps, x⟩ ∈ nodesBelow block.attributes ↔ block.node? steps = some x := by
  rw [Attribute.mem_nodesBelow]
  cases steps with
  | nil => simp [node?, Node.below]
  | cons name rest =>
    rw [node?, Option.bind_eq_some_iff]
    constructor
    · rintro ⟨⟨first, a⟩, hentry, ⟨inner, y⟩, hinner, heq⟩
      obtain ⟨⟨rfl, rfl⟩, rfl⟩ : (name = first ∧ rest = inner) ∧ x = y := by
        simpa [Node.below] using heq
      exact ⟨a, (NameMap.get?_eq_some_iff h.ascending).mpr hentry,
        (Attribute.mem_nodes_iff (h.below _ hentry)).mp hinner⟩
    · rintro ⟨a, ha, hnode⟩
      have hentry := (NameMap.get?_eq_some_iff h.ascending).mp ha
      exact ⟨(name, a), hentry, ⟨rest, x⟩,
        (Attribute.mem_nodes_iff (h.below _ hentry)).mpr hnode, rfl⟩

/-- The walk through an ordered block meets each address once, in ascending order. -/
theorem nodesBelow_ascending {block : Block} (h : block.Ordered) :
    (nodesBelow block.attributes).Pairwise fun x y => x.steps < y.steps :=
  Attribute.nodesBelow_ascending h.ascending fun entry hentry =>
    Attribute.nodes_ascending (h.below entry hentry)

end Block

namespace Schema

/-- The places of a schema: the attributes of the block and those nested in them. -/
def places (schema : Schema) : List Place := (nodesBelow schema.block.attributes).map .node

/-- The places of named schemas, where each schema is a place before its own. -/
def placesOf (place : String → Place) (entries : List (String × Schema)) : List Place :=
  entries.flatMap fun entry => place entry.1 :: entry.2.places

variable {capabilities : Capabilities}

/-- The conversion of a schema goes through its places. -/
theorem convert_visits (capabilities : Capabilities) (schema : Schema) :
    (schema.convert capabilities).Visits capabilities schema.places := by
  have hattributes : (Attribute.convertAll capabilities .root schema.block.attributes).Visits
      capabilities ((nodesBelow schema.block.attributes).map (.ofNode .root)) :=
    Attribute.convertAll_visits_of_forall fun entry _ =>
      Attribute.convert_visits capabilities entry.1 .root entry.2
  simp only [funext Place.ofNode_root] at hattributes
  exact (hattributes.bind_pure _).bind_pure _

/-- The conversion of named schemas goes through the places of each. -/
theorem convertAll_visits (announce : String → Event) (place : String → Place)
    (hevent : ∀ name, (place name).event = announce name)
    (hplace : ∀ name, (place name).fault? capabilities = none)
    (entries : List (String × Schema)) :
    (convertAll capabilities announce entries).Visits capabilities (placesOf place entries) := by
  induction entries with
  | nil => exact Run.visits_pure _
  | cons entry rest ih =>
    have hreport : (Run.report (announce entry.1)).Visits capabilities [place entry.1] := by
      rw [← hevent]
      exact Run.visits_report (hplace entry.1)
    have hschema := convert_visits capabilities entry.2
    exact hreport.bind fun _ _ => hschema.bind fun first _ =>
      ih.bind_pure fun others => (entry.1, first) :: others

end Schema

namespace ProviderSchema

variable {capabilities : Capabilities} {schemas : ProviderSchema}

/-- The places of a plugin's schemas: first those of the configuration, then resources by name,
then data sources by name. -/
def places (schemas : ProviderSchema) : List Place :=
  schemas.provider.places ++
    (Schema.placesOf .resource schemas.resources ++ Schema.placesOf .dataSource schemas.dataSources)

/-- The conversion of a plugin's schemas goes through their places. -/
theorem convertEach_visits (capabilities : Capabilities) (schemas : ProviderSchema) :
    (schemas.convertEach capabilities).Visits capabilities schemas.places := by
  have hprovider := Schema.convert_visits capabilities schemas.provider
  have hresources : (Schema.convertAll capabilities .resourceStarted schemas.resources).Visits
      capabilities (Schema.placesOf .resource schemas.resources) :=
    Schema.convertAll_visits _ .resource (fun _ => rfl) (fun _ => rfl) schemas.resources
  have hdataSources :
      (Schema.convertAll capabilities .dataSourceStarted schemas.dataSources).Visits capabilities
        (Schema.placesOf .dataSource schemas.dataSources) :=
    Schema.convertAll_visits _ .dataSource (fun _ => rfl) (fun _ => rfl) schemas.dataSources
  exact hprovider.bind fun _ _ => hresources.bind fun _ _ => hdataSources.bind_pure _

/-- A success is reported place by place, and at last with the numbers of schemas. -/
theorem trace_events_of_ok {wires : Wire.ProviderSchema}
    (h : (schemas.convert capabilities).result = .ok wires) :
    (schemas.trace capabilities).events = schemas.places.map Place.event ++
      [.providerConverted schemas.resources.length schemas.dataSources.length] := by
  have hvisits := convertEach_visits capabilities schemas
  have hfaults : schemas.places.findSome? (Place.fault? capabilities) = none := by
    rw [← hvisits.error?, Run.error?_eq_none_iff]
    exact ⟨wires, h⟩
  have hwires : schemas.wire = wires := by
    rw [convert_result, Conversion.settle_eq_ok_iff] at h
    exact h.2
  have houtcome : outcome (schemas.convertEach capabilities).result =
      .providerConverted schemas.resources.length schemas.dataSources.length := by
    change outcome (schemas.convert capabilities).result = _
    rw [h, outcome, ← hwires]
    simp [wire]
  rw [trace, convert, hvisits.events, Conversion.reports_eq_map hfaults, houtcome]

/-- A failure is reported up to the first attribute with a fault, whose refusal comes next. -/
theorem trace_events_of_error {error : SchemaError}
    (h : (schemas.convert capabilities).result = .error error) :
    ∃ before node after, schemas.places = before ++ .node node :: after ∧
      (∀ earlier ∈ before, earlier.fault? capabilities = none) ∧
      node.fault? capabilities .root = some error ∧ error.path? = some ⟨node.steps⟩ ∧
      (schemas.trace capabilities).events = before.map Place.event ++
        [.attributeStarted (node.steps.getLastD "") ⟨node.steps⟩,
          .attributeRefused ⟨node.steps⟩ error, .providerFailed error] := by
  have hvisits := convertEach_visits capabilities schemas
  have hfault : schemas.places.findSome? (Place.fault? capabilities) = some error := by
    rw [← hvisits.error?, Run.error?_eq_some_iff]
    exact h
  obtain ⟨before, place, after, hplaces, hplace, hbefore⟩ := List.findSome?_eq_some_iff.mp hfault
  obtain ⟨node, rfl, hpath⟩ := Place.eq_node_of_fault? hplace
  refine ⟨before, node, after, hplaces, hbefore, hplace, hpath, ?_⟩
  have hnone : before.findSome? (Place.fault? capabilities) = none :=
    List.findSome?_eq_none_iff.mpr hbefore
  have hrefusal : (Place.node node).refusal? capabilities =
      some (.attributeRefused ⟨node.steps⟩ error) := by
    have hnode : node.fault? capabilities .root = some error := hplace
    rw [Place.refusal?, hnode, Option.map_some]
  have houtcome : outcome (schemas.convertEach capabilities).result = .providerFailed error := by
    change outcome (schemas.convert capabilities).result = _
    rw [h, outcome]
  rw [trace, convert, hvisits.events, hplaces, Conversion.reports_append hnone, reports, hrefusal,
    houtcome, List.append_assoc]
  rfl

end ProviderSchema

/-- The record of a refused attribute: its path, and whether the protocol version cannot carry the
group or, with the text of the error, the attribute is not sound. -/
structure Log.Record.Refuses (path : Path) (error : SchemaError) (record : Log.Record) : Prop where
  level : record.level = .debug
  location : ⟨"path", path.dotted, false⟩ ∈ record.entries
  unsupported : record.message = "nested attributes not supported" ↔
    ∃ version, error = .unsupportedNesting path version
  unsound : record.message ≠ "nested attributes not supported" →
    record.message = "invalid schema attribute" ∧
      ⟨"error", error.message, false⟩ ∈ record.entries

/-- The record of a refusal is one, if the error is about the attribute at the path. -/
theorem Log.Record.refuses {path : Path} {error : SchemaError} (h : error.path? = some path) :
    (Log.Record.ofEvent (.attributeRefused path error)).Refuses path error := by
  cases error with
  | unsupportedNesting other version =>
    obtain rfl : other = path := Option.some.inj h
    exact ⟨rfl, by simp [ofEvent], by simp [ofEvent], by simp [ofEvent]⟩
  | unsupportedProtocolVersion version => cases h
  | _ => exact ⟨rfl, by simp [ofEvent], by simp [ofEvent], by simp [ofEvent]⟩

namespace ProviderSchema

/-- The trace of a conversion shows where it fails. Within the span of the version, a success shows
all places in their order, no refusal, and at last the numbers of schemas. A failure shows the
places up to the first attribute with a fault, then the refusal of this attribute and the failure
of the whole, both with its path and its error. The nodes of an ordered block are those that names
lead to, each of them once. -/
theorem trace_pinpoints (capabilities : Capabilities) (schemas : ProviderSchema) :
    (schemas.trace capabilities).span = some ⟨capabilities.version⟩ ∧
    (∀ wires, (schemas.convert capabilities).result = .ok wires →
      (schemas.trace capabilities).events = schemas.places.map Place.event ++
        [.providerConverted schemas.resources.length schemas.dataSources.length] ∧
      ∀ path error, Event.attributeRefused path error ∉ (schemas.trace capabilities).events) ∧
    (∀ error, (schemas.convert capabilities).result = .error error →
      ∃ before x after, schemas.places = before ++ .node x :: after ∧
        (∀ earlier ∈ before, earlier.fault? capabilities = none) ∧
        x.fault? capabilities .root = some error ∧ error.path? = some ⟨x.steps⟩ ∧
        (schemas.trace capabilities).events = before.map Place.event ++
          [.attributeStarted (x.steps.getLastD "") ⟨x.steps⟩,
            .attributeRefused ⟨x.steps⟩ error, .providerFailed error] ∧
        (Log.Record.ofEvent (.attributeRefused ⟨x.steps⟩ error)).Refuses ⟨x.steps⟩ error ∧
        Log.Record.ofEvent (.providerFailed error) =
          ⟨.error, "provider schema conversion failed", [⟨"error", error.message, false⟩,
            ⟨"path", Log.shownOption (some (Path.dotted ⟨x.steps⟩)), false⟩]⟩) ∧
    (∀ x : Node, Log.Record.ofEvent (Place.node x).event =
      ⟨.trace, "converting schema attribute", [⟨"attribute", x.steps.getLastD "", true⟩,
        ⟨"path", Path.dotted ⟨x.steps⟩, false⟩]⟩) ∧
    (∀ resources dataSources, Log.Record.ofEvent (.providerConverted resources dataSources) =
      ⟨.debug, "provider schema converted", [⟨"resources", toString resources, false⟩,
        ⟨"data_sources", toString dataSources, false⟩]⟩) ∧
    (∀ schema ∈ schemas.all, schema.block.Ordered →
      (∀ steps x, ⟨steps, x⟩ ∈ nodesBelow schema.block.attributes ↔
        schema.block.node? steps = some x) ∧
      (nodesBelow schema.block.attributes).Pairwise
        fun earlier later => earlier.steps < later.steps) := by
  refine ⟨rfl, fun wires h => ⟨trace_events_of_ok h, fun path error hrefused => ?_⟩,
    fun error h => ?_, fun _ => rfl, fun _ _ => rfl, fun schema _ hordered =>
      ⟨fun _ _ => Block.mem_nodesBelow_iff hordered, Block.nodesBelow_ascending hordered⟩⟩
  · rw [trace_events_of_ok h, List.mem_append, List.mem_map, List.mem_singleton] at hrefused
    obtain ⟨place, -, hplace⟩ | hlast := hrefused
    · cases place <;> cases hplace
    · cases hlast
  · obtain ⟨before, x, after, hplaces, hbefore, hfault, hpath, hevents⟩ := trace_events_of_error h
    refine ⟨before, x, after, hplaces, hbefore, hfault, hpath, hevents,
      Log.Record.refuses hpath, ?_⟩
    rw [Log.Record.ofEvent, hpath, Option.map_some]

/-- The disk alone is shown as a success, and all of the storage up to the volume without anyone
who sets its size. The disk has one node. -/
theorem trace_pinpoints_storage :
    (trace .v5 { resources := storage.resources.take 1 }).events =
      [.resourceStarted "disk", .attributeStarted "size" ⟨["size"]⟩, .providerConverted 1 0] ∧
    (∃ before : List Place, (storage.trace .v5).events = before.map Place.event ++
      [.attributeStarted "size" ⟨["size"]⟩,
        .attributeRefused ⟨["size"]⟩ (.missingConstraint ⟨["size"]⟩),
        .providerFailed (.missingConstraint ⟨["size"]⟩)]) ∧
    ⟨["size"], .ofType .number .forRequired⟩ ∈
      nodesBelow [("size", .ofType .number .forRequired)] := by
  refine ⟨?_, ?_, ?_⟩
  · exact ((trace_pinpoints .v5 { resources := storage.resources.take 1 }).2.1 _ rfl).1
  · have hstorage : (storage.convert .v5).result = .error (.missingConstraint ⟨["size"]⟩) := rfl
    obtain ⟨before, x, after, -, -, -, hpath, hevents, -⟩ :=
      (trace_pinpoints .v5 storage).2.2.1 _ hstorage
    have hsteps : x.steps = ["size"] := by simpa [SchemaError.path?, eq_comm] using hpath
    rw [hsteps] at hevents
    exact ⟨before, hevents⟩
  · have hordered : Block.Ordered { attributes := [("size", .ofType .number .forRequired)] } :=
      ⟨List.pairwise_singleton _ _, by simpa using Attribute.ordered_ofType .number _⟩
    have hnodes := (trace_pinpoints .v5 storage).2.2.2.2.2 { block := _ }
      (by simp [all, storage]) hordered
    exact (hnodes.1 ["size"] _).mpr rfl

end ProviderSchema

end PluginSchema
