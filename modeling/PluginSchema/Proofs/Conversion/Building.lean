import PluginSchema.Proofs.Conversion.AllOrNothing

/-!
# Conversion of what is built

Schemas are built by calls, each of which gives a value under a target: an attribute under a name,
or a schema as that of the configuration, of a resource or of a data source. Of several values
under one target the last stands, so nothing else of a sequence of calls shows in a conversion, nor
does the order of calls for different targets. Where a value converts already, one call more
changes its conversion in the target of the call only: what is given converts by itself and is set
at its place, or its error is the error of the whole.
-/

namespace PluginSchema

open Conversion (Run)

/-- A kind of value that is built by calls, each of which gives a value under a target. The values
under all targets determine an ordered value but for a rest, which no call changes. -/
structure Builder (X T V D : Type) [DecidableEq T] where
  give : X → T → V → X
  get? : X → T → Option V
  rest : X → D
  Ordered : X → Prop
  get?_give (x : X) (target : T) (value : V) (other : T) :
    get? (give x target value) other = if other = target then some value else get? x other
  rest_give (x : X) (target : T) (value : V) : rest (give x target value) = rest x
  ordered_give {x : X} (h : Ordered x) (target : T) (value : V) : Ordered (give x target value)
  ext {x y : X} (hx : Ordered x) (hy : Ordered y) (hrest : rest x = rest y)
    (h : ∀ target, get? x target = get? y target) : x = y

namespace Builder

variable {X T V D : Type} [DecidableEq T] (builder : Builder X T V D)

/-- What a sequence of calls builds from a value. -/
def build (start : X) (calls : List (T × V)) : X :=
  calls.foldl (fun built call => builder.give built call.1 call.2) start

/-- The last value given under a target: by a call, or by the value that the calls begin with. -/
def latest (start : X) (calls : List (T × V)) (target : T) : Option V :=
  (calls.reverse.lookup target).or (builder.get? start target)

theorem build_cons (start : X) (call : T × V) (calls : List (T × V)) :
    builder.build start (call :: calls) = builder.build (builder.give start call.1 call.2) calls :=
  rfl

theorem build_append (start : X) (calls later : List (T × V)) :
    builder.build start (calls ++ later) = builder.build (builder.build start calls) later :=
  List.foldl_append

/-- A call counts until another one follows for its target. -/
theorem latest_cons (start : X) (call : T × V) (calls : List (T × V)) (target : T) :
    builder.latest start (call :: calls) target =
      builder.latest (builder.give start call.1 call.2) calls target := by
  obtain ⟨given, value⟩ := call
  rw [latest, latest, List.reverse_cons, List.lookup_append, Option.or_assoc, builder.get?_give]
  congr 1
  by_cases htarget : target = given
  · simp [htarget]
  · simp only [List.lookup_cons, beq_eq_false_iff_ne.mpr htarget, List.lookup_nil, Option.none_or,
      if_neg htarget]

/-- What is built holds the last value given under each target. -/
theorem get?_build (start : X) (calls : List (T × V)) (target : T) :
    builder.get? (builder.build start calls) target = builder.latest start calls target := by
  induction calls generalizing start with
  | nil => rfl
  | cons call rest ih => rw [build_cons, ih, latest_cons]

/-- No sequence of calls changes the rest. -/
theorem rest_build (start : X) (calls : List (T × V)) :
    builder.rest (builder.build start calls) = builder.rest start := by
  induction calls generalizing start with
  | nil => rfl
  | cons call rest ih => rw [build_cons, ih, rest_give]

/-- Every sequence of calls keeps the order. -/
theorem ordered_build {start : X} (h : builder.Ordered start) (calls : List (T × V)) :
    builder.Ordered (builder.build start calls) := by
  induction calls generalizing start with
  | nil => exact h
  | cons call rest ih => exact ih (builder.ordered_give h call.1 call.2)

variable {builder} {start other : X}

/-- Only the last value given under each target counts. -/
theorem build_eq_of_latest_eq (hstart : builder.Ordered start) (hother : builder.Ordered other)
    (hrest : builder.rest start = builder.rest other) {calls calls' : List (T × V)}
    (h : ∀ target, builder.latest start calls target = builder.latest other calls' target) :
    builder.build start calls = builder.build other calls' := by
  apply builder.ext (builder.ordered_build hstart calls) (builder.ordered_build hother calls')
  · rw [rest_build, rest_build, hrest]
  · intro target
    rw [get?_build, get?_build, h]

/-- Two calls for different targets may come in either order. -/
theorem give_comm (hstart : builder.Ordered start) {first second : T} (hne : first ≠ second)
    (value value' : V) :
    builder.give (builder.give start first value) second value' =
      builder.give (builder.give start second value') first value := by
  apply builder.ext
  · exact builder.ordered_give (builder.ordered_give hstart _ _) _ _
  · exact builder.ordered_give (builder.ordered_give hstart _ _) _ _
  · simp only [rest_give]
  · intro target
    simp only [get?_give]
    by_cases hfirst : target = first
    · simp [hfirst, hne]
    · simp [hfirst]

/-- Neighbouring calls for different targets may be swapped. -/
theorem build_swap (hstart : builder.Ordered start) {first second : T × V}
    (hne : first.1 ≠ second.1) (before after : List (T × V)) :
    builder.build start (before ++ first :: second :: after) =
      builder.build start (before ++ second :: first :: after) := by
  simp only [build_append, build_cons]
  rw [give_comm (builder.ordered_build hstart before) hne]

end Builder

/-- Set an element of a list that is ordered by keys: before the first greater one, or in place of
the one with its key. -/
def insertBy {α : Type} (key : α → String) (value : α) : List α → List α
  | [] => [value]
  | other :: rest =>
    if key value < key other then value :: other :: rest
    else if key value = key other then value :: rest
    else other :: insertBy key value rest

/-- Entries of a map are set by their names. -/
theorem insertBy_fst {α : Type} (name : String) (value : α) (entries : List (String × α)) :
    insertBy Prod.fst (name, value) entries = NameMap.insert name value entries := by
  induction entries with
  | nil => rfl
  | cons other rest ih => rw [insertBy, ih, NameMap.insert]

namespace Conversion

variable {α β : Type} {key : β → String}

/-- Where the values of entries have their names as keys, an entry more is a value more at its
place. -/
theorem forall₂_insert {R : String × α → β → Prop}
    (hkey : ∀ entry value, R entry value → key value = entry.1) {entries : List (String × α)}
    {values : List β} (h : List.Forall₂ R entries values) {entry : String × α} {value : β}
    (hentry : R entry value) :
    List.Forall₂ R (NameMap.insert entry.1 entry.2 entries) (insertBy key value values) := by
  induction h with
  | nil => exact .cons hentry .nil
  | @cons other old rest olds hfirst hrest ih =>
    obtain ⟨name, inner⟩ := other
    rw [NameMap.insert, insertBy, hkey _ _ hfirst, hkey _ _ hentry]
    split
    · exact .cons hentry (.cons hfirst hrest)
    · split
      · exact .cons hentry hrest
      · exact .cons hfirst ih

/-- Where no entry has an error, the error of an entry more is that of the whole. -/
theorem findSome?_insert {error? : String × α → Option β} {entries : List (String × α)}
    (h : ∀ entry ∈ entries, error? entry = none) (entry : String × α) :
    (NameMap.insert entry.1 entry.2 entries).findSome? error? = error? entry := by
  induction entries with
  | nil =>
    rw [NameMap.insert, List.findSome?_cons, List.findSome?_nil]
    cases error? entry <;> rfl
  | cons first rest ih =>
    obtain ⟨hfirst, hrest⟩ := List.forall_mem_cons.mp h
    have hnone : rest.findSome? error? = none := List.findSome?_eq_none_iff.mpr hrest
    rw [NameMap.insert]
    split
    · simp only [List.findSome?_cons, hfirst, hnone]
      cases error? entry <;> rfl
    · split
      · simp only [List.findSome?_cons, hnone]
        cases error? entry <;> rfl
      · simp only [List.findSome?_cons, hfirst, ih hrest]

/-- Where a map is converted entry by entry, an entry more changes the result at its place, or its
error is that of the whole. -/
theorem Run.mapM_insert {step : String × α → Run β} {entries : List (String × α)} {values : List β}
    (hkey : ∀ entry value, (step entry).result = .ok value → key value = entry.1)
    (h : (entries.mapM step).result = .ok values) (entry : String × α) :
    ((NameMap.insert entry.1 entry.2 entries).mapM step).result =
      (step entry).result.map fun value => insertBy key value values := by
  cases hentry : (step entry).result with
  | error error =>
    have hnone : entries.findSome? (fun entry => (step entry).error?) = none := by
      rw [← mapM_error?, error?_eq_none_iff]
      exact ⟨values, h⟩
    rw [List.findSome?_eq_none_iff] at hnone
    rw [← error?_eq_some_iff] at hentry
    rw [Except.map, ← error?_eq_some_iff, mapM_error?, findSome?_insert hnone, hentry]
  | ok value =>
    rw [mapM_eq_ok_iff] at h
    rw [Except.map, mapM_eq_ok_iff]
    exact forall₂_insert hkey h hentry

end Conversion

/-- What a call gives a plugin a schema for. -/
inductive ProviderSchema.Target where
  | provider
  | resource (name : String)
  | dataSource (name : String)
  deriving DecidableEq

/-- Give a plugin the schema of a target. -/
def ProviderSchema.give (schemas : ProviderSchema) : Target → Schema → ProviderSchema
  | .provider, schema => schemas.withProvider schema
  | .resource name, schema => schemas.withResource name schema
  | .dataSource name, schema => schemas.withDataSource name schema

/-- The schema that a plugin has for a target. -/
def ProviderSchema.schema? (schemas : ProviderSchema) : Target → Option Schema
  | .provider => some schemas.provider
  | .resource name => NameMap.get? schemas.resources name
  | .dataSource name => NameMap.get? schemas.dataSources name

/-- A plugin's schemas are built by giving schemas for targets. -/
def ProviderSchema.builder : Builder ProviderSchema Target Schema Unit where
  give := give
  get? := schema?
  rest _ := ()
  Ordered schemas :=
    NameMap.Ascending schemas.resources ∧ NameMap.Ascending schemas.dataSources
  get?_give schemas target schema other := by
    cases target <;> cases other <;>
      simp [give, schema?, withProvider, withResource, withDataSource, NameMap.get?_insert]
  rest_give _ _ _ := rfl
  ordered_give h target schema := by
    cases target with
    | provider => exact h
    | resource name => exact ⟨NameMap.ascending_insert h.1 name schema, h.2⟩
    | dataSource name => exact ⟨h.1, NameMap.ascending_insert h.2 name schema⟩
  ext {schemas others} h hothers _ hget := by
    have hprovider : schemas.provider = others.provider := Option.some.inj (hget .provider)
    have hresources := h.1.ext hothers.1 fun name => hget (.resource name)
    have hdataSources := h.2.ext hothers.2 fun name => hget (.dataSource name)
    rcases schemas with ⟨provider, resources, dataSources⟩
    rcases others with ⟨provider', resources', dataSources'⟩
    simp_all

/-- A block is built by giving attributes under names. -/
def Block.builder : Builder Block String Attribute Documentation where
  give := withAttribute
  get? block := NameMap.get? block.attributes
  rest := documentation
  Ordered block := NameMap.Ascending block.attributes
  get?_give block := NameMap.get?_insert block.attributes
  rest_give _ _ _ := rfl
  ordered_give := NameMap.ascending_insert
  ext {block other} h hother hrest hget := by
    have hattributes := h.ext hother hget
    rcases block with ⟨attributes, documentation⟩
    rcases other with ⟨attributes', documentation'⟩
    simp_all

/-- A schema is built as its block is. -/
def Schema.builder : Builder Schema String Attribute (UInt64 × Documentation) where
  give := withAttribute
  get? schema := Block.builder.get? schema.block
  rest schema := (schema.version, schema.block.documentation)
  Ordered schema := Block.builder.Ordered schema.block
  get?_give schema := Block.builder.get?_give schema.block
  rest_give _ _ _ := rfl
  ordered_give := Block.builder.ordered_give
  ext {schema other} h hother hrest hget := by
    obtain ⟨hversion, hdocumentation⟩ := Prod.mk.inj hrest
    have hblock := Block.builder.ext h hother hdocumentation hget
    rcases schema with ⟨version, block⟩
    rcases other with ⟨version', block'⟩
    simp_all

/-- Set the wire schema of a target. -/
def Wire.ProviderSchema.give (wires : Wire.ProviderSchema) :
    PluginSchema.ProviderSchema.Target → Wire.Schema → Wire.ProviderSchema
  | .provider, wire => { wires with provider := wire }
  | .resource name, wire => { wires with resources := NameMap.insert name wire wires.resources }
  | .dataSource name, wire =>
    { wires with dataSources := NameMap.insert name wire wires.dataSources }

/-- Set a record at its place by ascending name. -/
def Wire.Block.withRecord (block : Wire.Block) (record : Wire.Attribute) : Wire.Block :=
  { block with attributes := insertBy Wire.Attribute.name record block.attributes }

/-- Set a record of the block at its place by ascending name. -/
def Wire.Schema.withRecord (schema : Wire.Schema) (record : Wire.Attribute) : Wire.Schema :=
  { schema with block := schema.block.withRecord record }

variable {capabilities : Capabilities} {path : Path}

/-- Where attributes convert, the result of an attribute more is set at its place in theirs. -/
theorem Attribute.convertAll_insert {entries : List (String × Attribute)}
    {records : List Wire.Attribute} (h : (convertAll capabilities path entries).result = .ok records)
    (name : String) (a : Attribute) :
    (convertAll capabilities path (NameMap.insert name a entries)).result =
      (a.convert capabilities name (path.child name)).result.map fun record =>
        insertBy Wire.Attribute.name record records := by
  rw [convertAll_eq_mapM] at h ⊢
  exact Run.mapM_insert (fun _ _ => convert_name) h (name, a)

/-- Where named schemas convert, the result of a schema more is set under its name in theirs. -/
theorem Schema.convertAll_insert {announce : String → Conversion.Event}
    {entries : List (String × Schema)} {wires : List (String × Wire.Schema)}
    (h : (convertAll capabilities announce entries).result = .ok wires) (name : String)
    (schema : Schema) :
    (convertAll capabilities announce (NameMap.insert name schema entries)).result =
      (schema.convert capabilities).result.map fun wire => NameMap.insert name wire wires := by
  have hkey (entry : String × Schema) (wire : String × Wire.Schema)
      (hwire : (do
        Run.report (announce entry.1)
        let wire ← entry.2.convert capabilities
        pure (entry.1, wire)).result = .ok wire) : Prod.fst wire = entry.1 := by
    obtain ⟨_, _, hwire⟩ := Run.result_bind_eq_ok_iff.mp hwire
    obtain ⟨_, _, hwire⟩ := Run.result_bind_eq_ok_iff.mp hwire
    cases hwire
    rfl
  rw [convertAll_eq_mapM] at h ⊢
  rw [Run.mapM_insert hkey h (name, schema)]
  simp only [Run.result_bind, Run.result_pure, Run.result_report]
  cases (schema.convert capabilities).result with
  | error error => rfl
  | ok wire => exact congrArg Except.ok (insertBy_fst name wire wires)

/-- Where a block converts, the record of an attribute more is set at its place. -/
theorem Block.convert_withAttribute {block : Block} {wire : Wire.Block}
    (h : (block.convert capabilities path).result = .ok wire) (name : String) (a : Attribute) :
    ((block.withAttribute name a).convert capabilities path).result =
      (a.convert capabilities name (path.child name)).result.map wire.withRecord := by
  obtain ⟨records, hrecords, rfl⟩ := convert_eq_ok_iff.mp h
  rw [convert, Run.result_bind, withAttribute, Attribute.convertAll_insert hrecords]
  cases (a.convert capabilities name (path.child name)).result <;> rfl

/-- Where a schema converts, the record of an attribute more is set at its place. -/
theorem Schema.convert_withAttribute {schema : Schema} {wire : Wire.Schema}
    (h : (schema.convert capabilities).result = .ok wire) (name : String) (a : Attribute) :
    ((schema.withAttribute name a).convert capabilities).result =
      (a.convert capabilities name (Path.root.child name)).result.map wire.withRecord := by
  obtain ⟨block, hblock, hwire⟩ := Run.result_bind_eq_ok_iff.mp h
  cases hwire
  rw [convert, Run.result_bind, withAttribute, Block.convert_withAttribute hblock]
  cases (a.convert capabilities name (Path.root.child name)).result <;> rfl

/-- Where a plugin's schemas convert, the result of a schema more is set for its target. -/
theorem ProviderSchema.convert_give {schemas : ProviderSchema} {wires : Wire.ProviderSchema}
    (h : (schemas.convert capabilities).result = .ok wires) (target : Target) (schema : Schema) :
    ((schemas.give target schema).convert capabilities).result =
      (schema.convert capabilities).result.map (wires.give target) := by
  obtain ⟨hprovider, hresources, hdataSources⟩ := convert_eq_ok_iff.mp h
  change ((schemas.give target schema).convertEach capabilities).result = _
  simp only [convertEach, Run.result_bind]
  cases target with
  | provider =>
    simp only [give, withProvider, hresources, hdataSources]
    cases (schema.convert capabilities).result <;> rfl
  | resource name =>
    simp only [give, withResource, Schema.convertAll_insert hresources, hprovider, hdataSources]
    cases (schema.convert capabilities).result <;> rfl
  | dataSource name =>
    simp only [give, withDataSource, Schema.convertAll_insert hdataSources, hprovider, hresources]
    cases (schema.convert capabilities).result <;> rfl

/-- Conversion of what a builder builds, where `part` converts what is given under a target and
`put` sets its result in the result of the whole. -/
structure Builder.Converts {X T V D W R : Type} [DecidableEq T] (builder : Builder X T V D)
    (convert : X → Run W) (part : T → V → Run R) (put : W → T → R → W) : Prop where
  /-- Nothing but the last value given under each target shows in a conversion. -/
  latest : ∀ start other : X, builder.Ordered start → builder.Ordered other →
    builder.rest start = builder.rest other → ∀ calls calls' : List (T × V),
      (∀ target, builder.latest start calls target = builder.latest other calls' target) →
      convert (builder.build start calls) = convert (builder.build other calls')
  /-- Neighbouring calls for different targets may be swapped. -/
  swap : ∀ start : X, builder.Ordered start → ∀ first second : T × V, first.1 ≠ second.1 →
    ∀ before after : List (T × V),
      convert (builder.build start (before ++ first :: second :: after)) =
        convert (builder.build start (before ++ second :: first :: after))
  /-- One value more is converted by itself: its result is set in that of the whole, and its error
  is the error of the whole. -/
  give : ∀ (x : X) (wire : W), (convert x).result = .ok wire → ∀ (target : T) (value : V),
    (convert (builder.give x target value)).result = (part target value).result.map (put wire target)

/-- Only what a builder builds matters to a conversion, so the laws of building carry over. -/
theorem Builder.converts_of_give {X T V D W R : Type} [DecidableEq T] {builder : Builder X T V D}
    {convert : X → Run W} {part : T → V → Run R} {put : W → T → R → W}
    (h : ∀ (x : X) (wire : W), (convert x).result = .ok wire → ∀ (target : T) (value : V),
      (convert (builder.give x target value)).result =
        (part target value).result.map (put wire target)) :
    builder.Converts convert part put where
  latest _ _ hstart hother hrest _ _ hlatest :=
    congrArg convert (build_eq_of_latest_eq hstart hother hrest hlatest)
  swap _ hstart _ _ hne before after := congrArg convert (build_swap hstart hne before after)
  give := h

/-- Conversion commutes with building. Whether a plugin's schemas, a schema or a block are built,
their conversion depends only on the last value that is given under each target, so calls for
different targets may be swapped. And where a value converts, it converts with one call more just
if what is given converts by itself, at its own path: then the result is set under the target and
all else stays, and otherwise the error is the error of what is given. -/
theorem convert_build (capabilities : Capabilities) (path : Path) :
    ProviderSchema.builder.Converts (fun schemas => schemas.convert capabilities)
      (fun _ schema => schema.convert capabilities) Wire.ProviderSchema.give ∧
    Schema.builder.Converts (fun schema => schema.convert capabilities)
      (fun name a => a.convert capabilities name (Path.root.child name))
      (fun wire _ record => wire.withRecord record) ∧
    Block.builder.Converts (fun block => block.convert capabilities path)
      (fun name a => a.convert capabilities name (path.child name))
      (fun wire _ record => wire.withRecord record) := by
  refine ⟨?_, ?_, ?_⟩
  · apply Builder.converts_of_give
    intro schemas wires h
    exact ProviderSchema.convert_give h
  · apply Builder.converts_of_give
    intro schema wire h
    exact Schema.convert_withAttribute h
  · apply Builder.converts_of_give
    intro block wire h
    exact Block.convert_withAttribute h

/-- A schema with the attributes `a` and `c`. -/
def Schema.spaced : Schema where
  block.attributes := [("a", .ofType .string .forRequired), ("c", .ofType .bool .forOptional)]

/-- An attribute `b` comes between the others, an `a` without a type is refused at its path, and a
plugin may be given a resource before or after a data source of its name. -/
theorem convert_build_spaced :
    ((Schema.spaced.withAttribute "b" (.ofType .number .forComputed)).convert .v5).result.map
        (fun wire => wire.block.attributes.map Wire.Attribute.name) = .ok ["a", "b", "c"] ∧
    ((Schema.spaced.withAttribute "a" {}).convert .v5).result = .error (.missingType ⟨["a"]⟩) ∧
    ProviderSchema.convert .v5 ((({} : ProviderSchema).withResource "disk" .spaced).withDataSource
        "disk" {}) =
      ProviderSchema.convert .v5 ((({} : ProviderSchema).withDataSource "disk" {}).withResource
        "disk" .spaced) := by
  obtain ⟨hplugin, hschema, -⟩ := convert_build .v5 .root
  have hbetween := hschema.give .spaced _ rfl "b" (.ofType .number .forComputed)
  refine ⟨?_, ?_, ?_⟩
  · exact (congrArg (Except.map _) hbetween).trans rfl
  · exact hschema.give .spaced _ rfl "a" {}
  · exact hplugin.swap {} ⟨by decide, by decide⟩ (.resource "disk", .spaced)
      (.dataSource "disk", {}) (by decide) [] []

end PluginSchema
