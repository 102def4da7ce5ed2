import PluginSchema.Proofs.Conversion.Location

/-!
# Reports of an error

A failed conversion is reported twice: as the status of a remote call, and as a diagnostic. Both
say the same words about the same place, and they name a place just if the error has a path below
the root, be its dotted form empty. The error of a plugin's schemas always has one. Where no name
has a dot in it, the dotted form can be split again, so it stands for one path only.
-/

namespace PluginSchema

namespace Path

/-- The path of the names between the dots of a text. -/
def ofDotted (text : String) : Path := ⟨(text.split '.').toList.map String.Slice.copy⟩

/-- A path below the root is its dotted form split at the dots, if no step has a dot in it. -/
theorem ofDotted_dotted {path : Path} (hroot : path ≠ root)
    (h : ∀ step ∈ path.steps, '.' ∉ step.toList) : ofDotted path.dotted = path := by
  have hsteps : path.steps ≠ [] := fun hnil => hroot (congrArg Path.mk hnil)
  have hsplit := String.toList_split_intercalate h
  rw [if_neg hsteps] at hsplit
  exact congrArg Path.mk hsplit

end Path

namespace SchemaError

variable {error : SchemaError}

/-- An error lies at a path just if it has the path and this is not the root. -/
theorem location?_eq_some_iff {path : Path} :
    error.location? = some path ↔ error.path? = some path ∧ path ≠ .root := by
  have hroot : path.isRoot = false ↔ path ≠ .root := by
    rcases path with ⟨steps⟩
    simp [Path.isRoot, Path.root]
  rw [location?, Option.filter_eq_some_iff, Bool.not_eq_true', hroot]

/-- The diagnostic says the message of the error. -/
theorem toDiagnostic_summary (error : SchemaError) :
    error.toDiagnostic.summary = error.message := by
  unfold toDiagnostic
  split <;> rfl

/-- The diagnostic names the place of the error. -/
theorem toDiagnostic_location (error : SchemaError) :
    error.toDiagnostic.location = error.location?.map Path.dotted := by
  unfold toDiagnostic
  split
  next path hpath => rw [hpath]; rfl
  next hnone => rw [hnone]; rfl

/-- The status says the message of the error behind its place. -/
theorem toStatus_message (error : SchemaError) :
    error.toStatus.message =
      (error.location?.elim "" fun path => path.dotted ++ ": ") ++ error.message := by
  unfold toStatus
  split
  next => exact (String.empty_append).symm
  next =>
    split
    next path hpath => rw [hpath]; rfl
    next hnone => rw [hnone]; exact (String.empty_append).symm

end SchemaError

namespace ProviderSchema

/-- No attribute, at any depth, has a dot in its name. -/
def Dotless (schemas : ProviderSchema) : Prop :=
  ∀ node ∈ Attribute.nodesBelow schemas.attributes, ∀ step ∈ node.steps, '.' ∉ step.toList

variable {capabilities : Capabilities} {schemas : ProviderSchema} {error : SchemaError}

/-- The error of a plugin's schemas lies where names lead to an attribute. -/
theorem exists_node_of_convert_error (h : (schemas.convert capabilities).result = .error error) :
    ∃ node ∈ Attribute.nodesBelow schemas.attributes, error.location? = some ⟨node.steps⟩ := by
  rw [← Conversion.Run.error?_eq_some_iff, convert_error?_eq_findSome?] at h
  obtain ⟨node, hnode, hfault⟩ := List.exists_of_findSome?_eq_some h
  have hpath : error.path? = some ⟨node.steps⟩ := Attribute.path?_of_fault? hfault
  have hroot : (⟨node.steps⟩ : Path) ≠ .root := fun hroot =>
    Attribute.steps_ne_nil_of_mem_nodesBelow hnode (congrArg Path.steps hroot)
  exact ⟨node, hnode, SchemaError.location?_eq_some_iff.mpr ⟨hpath, hroot⟩⟩

/-- The diagnostic of a failed conversion names a place, from which the path of the error can be
got back if no name has a dot in it. -/
theorem exists_location_of_convert_error
    (h : (schemas.convert capabilities).result = .error error) :
    ∃ location path, error.toDiagnostic.location = some location ∧ error.path? = some path ∧
      (schemas.Dotless → Path.ofDotted location = path) := by
  obtain ⟨node, hnode, hlocation⟩ := exists_node_of_convert_error h
  obtain ⟨hpath, hroot⟩ := SchemaError.location?_eq_some_iff.mp hlocation
  refine ⟨_, _, ?_, hpath, fun hdotless => Path.ofDotted_dotted hroot (hdotless node hnode)⟩
  rw [SchemaError.toDiagnostic_location, hlocation, Option.map_some]

/-- The two reports of an error agree, and locate it. The status says what the diagnostic says,
behind the place if the diagnostic names one, and that is so just if the error has a path below the
root. The diagnostic of a failed conversion names a place. If no name has a dot in it, that is the
path of the error when it is split at the dots, so failures at two paths are reported at two
places, also if they are failures of two plugins or for two protocol versions. -/
theorem reports_agree :
    (∀ error : SchemaError,
      (error.toDiagnostic.location = none →
        error.toStatus.message = error.toDiagnostic.summary) ∧
      (∀ location, error.toDiagnostic.location = some location →
        error.toStatus.message = location ++ ": " ++ error.toDiagnostic.summary) ∧
      (error.toDiagnostic.location.isSome ↔ ∃ path, error.path? = some path ∧ path ≠ .root)) ∧
    (∀ (capabilities : Capabilities) (schemas : ProviderSchema) (error : SchemaError),
      (schemas.convert capabilities).result = .error error →
        ∃ location path, error.toDiagnostic.location = some location ∧ error.path? = some path ∧
          (schemas.Dotless → Path.ofDotted location = path)) ∧
    (∀ (capabilities capabilities' : Capabilities) (schemas schemas' : ProviderSchema)
      (error error' : SchemaError), schemas.Dotless → schemas'.Dotless →
      (schemas.convert capabilities).result = .error error →
      (schemas'.convert capabilities').result = .error error' → error.path? ≠ error'.path? →
        error.toDiagnostic.location ≠ error'.toDiagnostic.location) := by
  refine ⟨fun error => ⟨fun hnone => ?_, fun location hlocation => ?_, ?_⟩,
    fun _ _ _ => exists_location_of_convert_error, ?_⟩
  · rw [SchemaError.toDiagnostic_location, Option.map_eq_none_iff] at hnone
    rw [SchemaError.toStatus_message, SchemaError.toDiagnostic_summary, hnone]
    exact String.empty_append
  · rw [SchemaError.toDiagnostic_location, Option.map_eq_some_iff] at hlocation
    obtain ⟨path, hpath, rfl⟩ := hlocation
    rw [SchemaError.toStatus_message, SchemaError.toDiagnostic_summary, hpath]
    rfl
  · rw [SchemaError.toDiagnostic_location, Option.isSome_map, Option.isSome_iff_exists]
    simp only [SchemaError.location?_eq_some_iff]
  · intro _ _ _ _ error error' hdotless hdotless' h h' hpaths heq
    obtain ⟨location, path, hlocation, hpath, hsplit⟩ := exists_location_of_convert_error h
    obtain ⟨location', path', hlocation', hpath', hsplit'⟩ := exists_location_of_convert_error h'
    have hsame : location = location' := Option.some.inj (by rw [← hlocation, heq, hlocation'])
    have hpath_eq : path = path' := by rw [← hsplit hdotless, hsame, hsplit' hdotless']
    exact hpaths (by rw [hpath, hpath', hpath_eq])

/-- A plugin with an attribute in a group, both with an empty name. -/
def nameless : ProviderSchema where
  provider.block.attributes := [("", .ofGroup { attributes := [("", {})] } .forRequired)]

/-- The inner attribute has no type, and its place is a single dot. A version without groups
refuses the outer one, whose place is the empty text. Both places are split to their paths. -/
theorem reports_agree_nameless :
    (SchemaError.missingType ⟨["", ""]⟩).toStatus.message = ".: must have Type set" ∧
    Path.ofDotted "." = ⟨["", ""]⟩ ∧ Path.ofDotted "" = ⟨[""]⟩ ∧
    (SchemaError.missingType ⟨["", ""]⟩).toDiagnostic.location ≠
      (SchemaError.unsupportedNesting ⟨[""]⟩ 5).toDiagnostic.location := by
  have hdotless : nameless.Dotless := by
    simp [Dotless, nameless, attributes, all, Attribute.nodesBelow, Attribute.nodes,
      Attribute.ofGroup, Attribute.Node.below]
  have hinner : (nameless.convert .v6).result = .error (.missingType ⟨["", ""]⟩) := rfl
  have houter : (nameless.convert .v5).result = .error (.unsupportedNesting ⟨[""]⟩ 5) := rfl
  obtain ⟨hagree, hlocate, hdiffer⟩ := reports_agree
  refine ⟨(hagree (.missingType ⟨["", ""]⟩)).2.1 "." rfl, ?_, ?_,
    hdiffer .v6 .v5 _ _ _ _ hdotless hdotless hinner houter (by decide)⟩
  · obtain ⟨location, path, hlocation, hpath, hsplit⟩ := hlocate .v6 nameless _ hinner
    cases hlocation
    cases hpath
    exact hsplit hdotless
  · obtain ⟨location, path, hlocation, hpath, hsplit⟩ := hlocate .v5 nameless _ houter
    cases hlocation
    cases hpath
    exact hsplit hdotless

end ProviderSchema

end PluginSchema
