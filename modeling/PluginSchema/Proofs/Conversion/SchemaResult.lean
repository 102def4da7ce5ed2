import PluginSchema.Conversion.Schema
import PluginSchema.Proofs.Conversion.Result

/-!
# The result of converting schemas

A schema converts if its attributes do, and ends with their first error. The schemas of a plugin
convert one after the other, so the error of the whole is that of the first schema with one.
-/

namespace PluginSchema

open Conversion (Event Run)

namespace Block

/-- The wire form of a block whose attributes have records already. -/
def record (block : Block) (attributes : List Wire.Attribute) : Wire.Block where
  attributes
  description := block.documentation.toWire
  deprecated := block.documentation.isDeprecated

/-- A block converts to what is put together from the records of its attributes. -/
theorem convert_eq_ok_iff {capabilities : Capabilities} {path : Path} {block : Block}
    {wire : Wire.Block} :
    (block.convert capabilities path).result = .ok wire ↔
      ∃ attributes,
        (Attribute.convertAll capabilities path block.attributes).result = .ok attributes ∧
        block.record attributes = wire := by
  simp only [convert, Run.result_bind_eq_ok_iff, Run.result_pure, Except.ok.injEq, record]

/-- The error of a block is that of its attributes. -/
theorem convert_error? (capabilities : Capabilities) (path : Path) (block : Block) :
    (block.convert capabilities path).error? =
      (Attribute.convertAll capabilities path block.attributes).error? := by
  rw [convert, Run.error?_bind_pure]

end Block

namespace Schema

/-- The wire form of a schema whose attributes have records already. -/
def record (schema : Schema) (attributes : List Wire.Attribute) : Wire.Schema where
  version := saturated schema.version
  block := {
    attributes
    description := schema.block.documentation.toWire
    deprecated := schema.block.documentation.isDeprecated }

/-- A schema converts to what is put together from the records of its attributes. -/
theorem convert_eq_ok_iff {capabilities : Capabilities} {schema : Schema} {wire : Wire.Schema} :
    (schema.convert capabilities).result = .ok wire ↔
      ∃ attributes,
        (Attribute.convertAll capabilities .root schema.block.attributes).result =
          .ok attributes ∧
        schema.record attributes = wire := by
  simp only [convert, Run.result_bind_eq_ok_iff, Block.convert_eq_ok_iff, Run.result_pure,
    Except.ok.injEq]
  constructor
  · rintro ⟨block, ⟨attributes, hattributes, rfl⟩, rfl⟩
    exact ⟨attributes, hattributes, rfl⟩
  · rintro ⟨attributes, hattributes, rfl⟩
    exact ⟨_, ⟨attributes, hattributes, rfl⟩, rfl⟩

/-- The error of a schema is that of its attributes. -/
theorem convert_error? (capabilities : Capabilities) (schema : Schema) :
    (schema.convert capabilities).error? =
      (Attribute.convertAll capabilities .root schema.block.attributes).error? := by
  rw [convert, Run.error?_bind_pure, Block.convert_error?]

/-- Named schemas are converted by one run for each entry. -/
theorem convertAll_eq_mapM (capabilities : Capabilities) (announce : String → Event)
    (entries : List (String × Schema)) :
    convertAll capabilities announce entries = entries.mapM (fun entry => (do
      Run.report (announce entry.1)
      let wire ← entry.2.convert capabilities
      pure (entry.1, wire))) := by
  induction entries with
  | nil => rfl
  | cons entry rest ih => simp [convertAll, ih]

/-- Named schemas convert just if they do so one by one, and keep their names. -/
theorem convertAll_eq_ok_iff {capabilities : Capabilities} {announce : String → Event}
    {entries : List (String × Schema)} {wires : List (String × Wire.Schema)} :
    (convertAll capabilities announce entries).result = .ok wires ↔
      List.Forall₂ (fun entry wire =>
        (entry.2.convert capabilities).result = .ok wire.2 ∧ entry.1 = wire.1) entries wires := by
  rw [convertAll_eq_mapM, Run.mapM_eq_ok_iff]
  simp [Run.result_bind_eq_ok_iff, Prod.ext_iff, -bind_pure_comp]

/-- The error of named schemas is that of the first one with an error. -/
theorem convertAll_error? (capabilities : Capabilities) (announce : String → Event)
    (entries : List (String × Schema)) :
    (convertAll capabilities announce entries).error? =
      entries.findSome? fun entry => (entry.2.convert capabilities).error? := by
  rw [convertAll_eq_mapM, Run.mapM_error?]
  congr 1
  funext entry
  rw [Run.error?_bind fun _ _ => Run.error?_bind_pure _ _]
  rfl

end Schema

end PluginSchema
