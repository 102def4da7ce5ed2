import PluginSchema.Proofs.Json.Leniency

/-!
# Strict and lenient readers of records

A record is read from a whole object as from the list of the members, whether the members that are
not its own are passed over or kept for another record. So two readers of records are alike if the
readers of the fields are, unless a member is not.
-/

namespace PluginSchema.Json

open Reading (Unless)

variable {α β γ : Type}

section Members

variable {fields : List (RecordField α)} {depth room : Nat} {entries : List (String × Node)}

/-- The names that are of no field are the others. -/
theorem findField_eq_none_iff {name : String} :
    findField fields name = none ↔ name ∉ fields.map RecordField.name := by
  simp [findField]

/-- The members of a whole object are read for a record as if they had been kept for it. -/
theorem readFields_ofList (hentries : ∀ entry ∈ entries, entry.2.Within depth)
    (progress : Progress α) :
    Progress.record <$> readFields fields room progress (.ofList entries) =
      readKeptFields fields room progress entries := by
  induction entries generalizing progress with
  | nil => rfl
  | cons entry rest ih =>
    obtain ⟨hentry, hrest⟩ := List.forall_mem_cons.mp hentries
    rw [Members.ofList, readFields, readKeptFields]
    cases findField fields entry.1 with
    | none =>
      dsimp only
      rw [hentry.skip]
      exact ih hrest progress
    | some field =>
      dsimp only
      rw [map_bind]
      exact congrArg _ (funext (ih hrest))

/-- A record none of whose fields is required is complete. -/
theorem Progress.complete_eq_ok (h : ∀ field ∈ fields, field.presence ≠ .required)
    (progress : Progress α) : progress.complete fields = .ok progress.record := by
  have hfind : fields.find? (fun field =>
      field.presence == .required && !progress.seen.contains field.name) = none := by
    rw [List.find?_eq_none]
    intro field hfield
    simp [h field hfield]
  rw [complete, hfind]

/-- A record none of whose fields is required is read from a whole object as from members that
were kept for it. -/
theorem readRecord_obj (hdefault : ∀ field ∈ fields, field.presence ≠ .required)
    (hentries : ∀ entry ∈ entries, entry.2.Within depth) (mode : Mode) (title : String)
    (empty : α) :
    readRecord mode title fields empty (room + 1) (.obj (.ofList entries)) =
      readKeptFields fields room ⟨empty, []⟩ entries := by
  have hcomplete : Progress.complete fields = fun progress => .ok progress.record :=
    funext (Progress.complete_eq_ok hdefault)
  change (readFields fields room ⟨empty, []⟩ (.ofList entries) >>= Progress.complete fields) = _
  rw [← readFields_ofList hentries, hcomplete]
  rfl

/-- Own fields are read from a whole object as from members that were kept for them, and what is
kept for another record are the other members. -/
theorem readOwnFields_ofList (hentries : ∀ entry ∈ entries, entry.2.Within depth)
    (hroom : depth ≤ room) (progress : Progress α) :
    readOwnFields fields room progress (.ofList entries) =
      (·, entries.filter fun entry => (findField fields entry.1).isNone) <$>
        readKeptFields fields room progress entries := by
  induction entries generalizing progress with
  | nil => rfl
  | cons entry rest ih =>
    obtain ⟨hentry, hrest⟩ := List.forall_mem_cons.mp hentries
    rw [Members.ofList, readOwnFields, readKeptFields, List.filter_cons]
    cases findField fields entry.1 with
    | none =>
      simp only [hentry.lookThrough hroom, ih hrest]
      cases readKeptFields fields room progress rest <;> rfl
    | some field =>
      simp only [ih hrest, map_bind]
      rfl

/-- Members that are not for a record may be left out. -/
theorem readKeptFields_filter {keep : String × Node → Bool}
    (h : ∀ entry, keep entry = false → findField fields entry.1 = none)
    (entries : List (String × Node)) (progress : Progress α) :
    readKeptFields fields room progress (entries.filter keep) =
      readKeptFields fields room progress entries := by
  induction entries generalizing progress with
  | nil => rfl
  | cons entry rest ih =>
    rw [List.filter_cons]
    cases hkeep : keep entry with
    | false =>
      rw [readKeptFields, h entry hkeep]
      exact ih progress
    | true =>
      rw [if_pos rfl, readKeptFields, readKeptFields]
      simp only [ih]

/-- One member is read for its field. -/
theorem readKeptFields_singleton {field : RecordField α} {name : String}
    (hfind : findField fields name = some field) (room : Nat) (node : Node) (empty : α) :
    readKeptFields fields room ⟨empty, []⟩ [(name, node)] = field.read room node empty := by
  rw [readKeptFields, hfind]
  change ((do
    let record ← field.read room node empty
    return ⟨record, [field.name]⟩) >>= fun progress : Progress α => Except.ok progress.record) = _
  cases field.read room node empty <;> rfl

variable {taken : List (RecordField β)}

/-- A record with the members of another one is read from a whole object just if both are, where
no name is a field of both. -/
theorem readMerged_obj_eq_ok_iff (hentries : ∀ entry ∈ entries, entry.2.Within depth)
    (hroom : depth ≤ room)
    (hdisjoint : ∀ name ∈ fields.map RecordField.name, name ∉ taken.map RecordField.name)
    (title : String) (empty : α) (emptyTaken : β) (value : α × β) :
    readMerged title fields empty taken emptyTaken (room + 1) (.obj (.ofList entries)) =
        .ok value ↔
      readKeptFields fields room ⟨empty, []⟩ entries = .ok value.1 ∧
        readKeptFields taken room ⟨emptyTaken, []⟩ entries = .ok value.2 := by
  have hothers (entry : String × Node) (hentry : (findField fields entry.1).isNone = false) :
      findField taken entry.1 = none := by
    refine findField_eq_none_iff.mpr (hdisjoint entry.1 ?_)
    rw [Option.isNone_eq_false_iff, Option.isSome_iff_ne_none, ne_eq, findField_eq_none_iff,
      not_not] at hentry
    exact hentry
  rw [← readKeptFields_filter hothers]
  change (do
    let own ← readOwnFields fields room ⟨empty, []⟩ (.ofList entries)
    let inner ← readKeptFields taken room ⟨emptyTaken, []⟩ own.2
    return (own.1, inner) : Reading (α × β)) = .ok value ↔ _
  rw [readOwnFields_ofList hentries hroom]
  cases readKeptFields fields room ⟨empty, []⟩ entries with
  | error error => simp [Bind.bind, Except.bind]
  | ok record =>
    change (do
      let inner ← readKeptFields taken room ⟨emptyTaken, []⟩ _
      return (record, inner) : Reading (α × β)) = .ok value ↔ _
    cases readKeptFields taken room ⟨emptyTaken, []⟩ (entries.filter _) with
    | error error => simp [Bind.bind, Except.bind]
    | ok inner => simp [Bind.bind, Except.bind, Pure.pure, Except.pure, Prod.ext_iff]

end Members

section Fields

variable {levels levels' : Nat} {P : String → Node → Prop}

/-- Two fields of one name that are read alike. -/
structure FieldUnless (levels levels' : Nat) (P : Node → Prop) (strict lenient : RecordField α) :
    Prop where
  name : strict.name = lenient.name
  presence : strict.presence = lenient.presence
  read : ∀ record, ReadsUnless levels levels' P (strict.read · · record) (lenient.read · · record)

/-- Two fields whose values are read alike are. -/
theorem fieldUnless_of {strict lenient : Reader γ} {P : Node → Prop}
    (h : ReadsUnless levels levels' P strict lenient) (name : String) (set : α → γ → α) :
    FieldUnless levels levels' P (.of name strict set) (.of name lenient set) where
  name := rfl
  presence := rfl
  read record := h.map (set record)

/-- Two lists of fields of the same names that are read alike. -/
def FieldsUnless (levels levels' : Nat) (P : String → Node → Prop) :
    List (RecordField α) → List (RecordField α) → Prop :=
  List.Forall₂ fun strict lenient => FieldUnless levels levels' (P strict.name) strict lenient

variable {strict lenient : List (RecordField α)}

/-- A name has a field in both lists or in none. -/
theorem FieldsUnless.find (h : FieldsUnless levels levels' P strict lenient) (name : String) :
    Option.Rel (FieldUnless levels levels' (P name)) (findField strict name)
      (findField lenient name) := by
  induction h with
  | nil => exact .none
  | @cons first second _ _ hfirst _ ih =>
    rw [findField, findField, List.find?_cons, List.find?_cons, ← hfirst.name]
    cases hname : first.name == name with
    | false => exact ih
    | true =>
      obtain rfl := beq_iff_eq.mp hname
      exact .some hfirst

/-- A value is assigned alike to fields that are read alike. -/
theorem FieldUnless.assign {P : Node → Prop} {first second : RecordField α}
    (h : FieldUnless levels levels' P first second) {depth room room' : Nat} {node : Node}
    (hnode : node.Within depth) (hrooms : Rooms levels levels' depth room room')
    (progress : Progress α) :
    Unless (P node) (progress.assign first room node) (progress.assign second room' node) := by
  have hread := ((h.read progress.record).alike hnode hrooms).map fun record =>
    (⟨record, first.name :: progress.seen⟩ : Progress α)
  unfold Progress.assign
  rw [← h.name]
  split
  · exact .errors _ _
  · exact hread

/-- Members that were kept for a record, where all with the property have a field. -/
theorem FieldsUnless.readKeptFields (h : FieldsUnless levels levels' P strict lenient)
    (hP : ∀ name node, P name node → name ∈ strict.map RecordField.name) {depth room room' : Nat}
    {entries : List (String × Node)} (hentries : ∀ entry ∈ entries, entry.2.Within depth)
    (hrooms : Rooms levels levels' depth room room') (progress : Progress α) :
    Unless (∃ entry ∈ entries, P entry.1 entry.2) (Json.readKeptFields strict room progress entries)
      (Json.readKeptFields lenient room' progress entries) := by
  induction entries generalizing progress with
  | nil => exact .refl (by simp) _
  | cons entry rest ih =>
    obtain ⟨hentry, hrest⟩ := List.forall_mem_cons.mp hentries
    have hfind := h.find entry.1
    rw [Json.readKeptFields, Json.readKeptFields]
    cases hstrict : findField strict entry.1 <;> cases hlenient : findField lenient entry.1 <;>
      rw [hstrict, hlenient] at hfind <;> cases hfind
    case none.none =>
      have hnot : ¬P entry.1 entry.2 := fun hentry =>
        findField_eq_none_iff.mp hstrict (hP _ _ hentry)
      exact (ih hrest progress).congr (by simp [hnot])
    case some.some hfield =>
      have hassign := hfield.assign hentry hrooms progress
      exact (hassign.bind fun progress _ => ih hrest progress).congr (by simp)

/-- Items of an array that gives the values of fields in their order. -/
theorem FieldsUnless.readFieldItems (h : FieldsUnless levels levels' P strict lenient)
    {depth room room' : Nat} {nodes : List Node} (hnodes : ∀ node ∈ nodes, node.Within depth)
    (hrooms : Rooms levels levels' depth room room') (expected : String) (index : Nat)
    (record : α) :
    Unless (∃ part ∈ (strict.map RecordField.name).zip nodes, P part.1 part.2)
      (Json.readFieldItems .direct expected room index strict record (.ofList nodes))
      (Json.readFieldItems .buffered expected room' index lenient record (.ofList nodes)) := by
  induction h generalizing nodes index record with
  | nil =>
    cases nodes with
    | nil => exact .refl (by simp) _
    | cons node rest => exact .errors _ _
  | @cons first second _ _ hfirst _ ih =>
    cases nodes with
    | nil =>
      simp only [Items.ofList, Json.readFieldItems, ← hfirst.presence]
      split
      · have hrest := ih (List.forall_mem_nil _) (index + 1) record
        exact hrest.congr (by simp)
      · exact .errors _ _
    | cons node rest =>
      obtain ⟨hnode, hrest⟩ := List.forall_mem_cons.mp hnodes
      have hread := ((hfirst.read record).alike hnode hrooms).bind fun record _ =>
        ih hrest (index + 1) record
      exact hread.congr (by simp)

/-- The names are the same. -/
theorem FieldsUnless.names (h : FieldsUnless levels levels' P strict lenient) :
    strict.map RecordField.name = lenient.map RecordField.name := by
  induction h with
  | nil => rfl
  | cons hfirst _ ih => rw [List.map_cons, List.map_cons, hfirst.name, ih]

/-- The same fields are required. -/
theorem FieldsUnless.presence (h : FieldsUnless levels levels' P strict lenient)
    (hdefault : ∀ field ∈ strict, field.presence ≠ .required) :
    ∀ field ∈ lenient, field.presence ≠ .required := by
  induction h with
  | nil => exact nofun
  | cons hfirst _ ih =>
    obtain ⟨hstrict, hrest⟩ := List.forall_mem_cons.mp hdefault
    exact List.forall_mem_cons.mpr ⟨hfirst.presence ▸ hstrict, ih hrest⟩

/-- Records without required fields. -/
theorem FieldsUnless.readRecord (h : FieldsUnless levels levels' P strict lenient)
    (hP : ∀ name node, P name node → name ∈ strict.map RecordField.name)
    (hdefault : ∀ field ∈ strict, field.presence ≠ .required) (title : String) (empty : α) :
    ReadsUnless (levels + 1) (levels' + 1)
      (fun node => ∃ part ∈ node.parts (strict.map RecordField.name), P part.1 part.2)
      (readRecord .direct title strict empty) (readRecord .buffered title lenient empty) := by
  refine ⟨fun hnode hrooms => ?_⟩
  cases hnode with
  | @obj depth entries hentries =>
    obtain ⟨room, room', rfl, rfl, hroomsBelow⟩ := hrooms.enter
    rw [readRecord_obj hdefault hentries, readRecord_obj (h.presence hdefault) hentries]
    have hkept := h.readKeptFields hP hentries hroomsBelow ⟨empty, []⟩
    exact hkept.congr (by simp)
  | @arr depth nodes hnodes =>
    obtain ⟨room, room', rfl, rfl, hroomsBelow⟩ := hrooms.enter
    have hlength : lenient.length = strict.length := (List.Forall₂.length_eq h).symm
    have hitems := h.readFieldItems hnodes hroomsBelow
      ("struct " ++ title ++ " with " ++ toString strict.length ++ " elements") 0 empty
    change Unless _ (Json.readFieldItems .direct _ room 0 strict empty (.ofList nodes))
      (Json.readFieldItems .buffered _ room' 0 lenient empty (.ofList nodes))
    rw [hlength]
    exact hitems.congr (by simp)
  | _ => exact .errors _ _

variable {taken : List (RecordField β)}

/-- Records that take in the members of another one, where room does not matter to the fields of
that one. -/
theorem FieldsUnless.readMerged (h : FieldsUnless levels levels' P strict lenient)
    (hP : ∀ name node, P name node → name ∈ strict.map RecordField.name)
    (htaken : FieldsUnless levels levels' (fun _ _ => False) taken taken)
    (hdisjoint : ∀ name ∈ strict.map RecordField.name, name ∉ taken.map RecordField.name)
    (title : String) (empty : α) (emptyTaken : β) :
    ReadsUnless (levels + 1) (levels' + 1)
      (fun node => ∃ part ∈ node.parts [], P part.1 part.2)
      (readMerged title strict empty taken emptyTaken)
      (readMerged title lenient empty taken emptyTaken) := by
  refine ⟨fun hnode hrooms => ?_⟩
  cases hnode with
  | @obj depth entries hentries =>
    obtain ⟨room, room', rfl, rfl, hroomsBelow⟩ := hrooms.enter
    have hdisjoint' : ∀ name ∈ lenient.map RecordField.name, name ∉ taken.map RecordField.name :=
      h.names ▸ hdisjoint
    intro value
    have hown := h.readKeptFields hP hentries hroomsBelow ⟨empty, []⟩ value.1
    have hinner := htaken.readKeptFields (fun _ _ hfalse => hfalse.elim) hentries hroomsBelow
      ⟨emptyTaken, []⟩ value.2
    rw [readMerged_obj_eq_ok_iff hentries hroomsBelow.le hdisjoint,
      readMerged_obj_eq_ok_iff hentries hroomsBelow.le' hdisjoint', hown, hinner]
    simp only [Node.parts_obj, and_false, exists_false, not_false_iff, and_true]
    exact and_right_comm
  | _ => exact .errors _ _

end Fields

end PluginSchema.Json
