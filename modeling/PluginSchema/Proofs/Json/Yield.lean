import PluginSchema.Json.Record
import PluginSchema.Proofs.Json.Leniency

/-!
# What readers yield

A property that all values have which a reader yields may depend on how many containers the reader
was allowed to enter. A map or a record takes one container, and what stands in it is read with the
others. So a bound by that number is carried from the parts to the whole, whatever the document
holds and in whichever of its forms a record is written.
-/

namespace PluginSchema.Json

variable {α β γ : Type}

/-- Whatever a reader yields has a property, for the number of containers that it may enter. -/
def Yields (read : Reader α) (P : Nat → α → Prop) : Prop :=
  ∀ room node value, read room node = .ok value → P room value

/-- A property of what stands in a container, for the number of containers without this one. -/
def Inside (P : Nat → α → Prop) (room : Nat) (value : α) : Prop :=
  ∃ inner, room = inner + 1 ∧ P inner value

/-- A container can be entered where there is room for one. -/
theorem enter_eq_ok_iff {room inner : Nat} : enter room = .ok inner ↔ room = inner + 1 := by
  cases room with
  | zero => simp [enter, Reading.broken]
  | succ room => simp [enter]

/-- A value that does not fit is not read. -/
theorem Node.mismatch_ne_ok {node : Node} {expected : String} {value : α} :
    node.mismatch expected ≠ .ok value := by
  intro h
  obtain ⟨_, _, hunfit⟩ := Reading.bind_eq_ok_iff.mp h
  cases hunfit

namespace Yields

variable {read : Reader α} {P Q : Nat → α → Prop}

/-- What has one property has each that follows from it. -/
theorem mono (h : Yields read P) (hPQ : ∀ room value, P room value → Q room value) :
    Yields read Q := fun room node value hread => hPQ room value (h room node value hread)

/-- A value that may be absent has the property if it is there. -/
theorem optional (h : Yields read P) :
    Yields (readOptional read) fun room value => ∀ x ∈ value, P room x := by
  intro room node value hread
  have hsome (hread : (some <$> read room node) = .ok value) : ∀ x ∈ value, P room x := by
    obtain ⟨x, hx, hvalue⟩ := Reading.bind_eq_ok_iff.mp hread
    cases hvalue
    rintro _ ⟨⟩
    exact h room node x hx
  cases node with
  | null => cases hread; exact nofun
  | cut gap => cases gap with
    | nullWord fault => cases hread
    | _ => exact hsome hread
  | _ => exact hsome hread

/-- What is read from the members of an object has the property of what one member yields. -/
theorem of_readMembers {P : α → Prop} {read : Node → Reading α}
    (h : ∀ node value, read node = .ok value → P value) :
    (members : Members) → ∀ values, readMembers read members = .ok values →
      ∀ entry ∈ values, P entry.2
  | .close, values, hread => by
    cases hread
    exact nofun
  | .member none _ _, _, hread => nomatch hread
  | .member (some key) node rest, values, hread => by
    obtain ⟨first, hfirst, hread⟩ := Reading.bind_eq_ok_iff.mp hread
    obtain ⟨others, hothers, hread⟩ := Reading.bind_eq_ok_iff.mp hread
    cases hread
    exact List.forall_mem_cons.mpr ⟨h node first hfirst, of_readMembers h rest others hothers⟩
  | .stop _ _ _, _, hread => nomatch hread

/-- A map is in order, and its values have the property for one container less. -/
theorem map (h : Yields read P) :
    Yields (readMap read) fun room entries =>
      entries.Ascending ∧
        Inside (fun inner entries => ∀ entry ∈ entries, P inner entry.2) room entries := by
  intro room node entries hread
  cases node with
  | obj members =>
    obtain ⟨inner, hinner, hread⟩ := Reading.bind_eq_ok_iff.mp hread
    obtain ⟨values, hvalues, hread⟩ := Reading.bind_eq_ok_iff.mp hread
    cases hread
    refine ⟨NameMap.ascending_ofList values, inner, enter_eq_ok_iff.mp hinner, ?_⟩
    intro entry hentry
    exact of_readMembers (h inner) members values hvalues entry (NameMap.mem_of_mem_ofList hentry)
  | _ => exact absurd hread Node.mismatch_ne_ok

end Yields

/-- Whatever is read for a field, the record keeps a property. -/
def RecordField.Keeps (field : RecordField α) (room : Nat) (P : α → Prop) : Prop :=
  ∀ node a b, P a → field.read room node a = .ok b → P b

/-- A record keeps a property that does not look at a field. -/
theorem RecordField.keeps_of_set {name : String} {read : Reader γ} {set : α → γ → α} {P : α → Prop}
    {room : Nat} (hset : ∀ a value, P a → P (set a value)) :
    (RecordField.of name read set).Keeps room P := by
  intro node a b ha hread
  obtain ⟨value, _, hb⟩ := Reading.bind_eq_ok_iff.mp hread
  cases hb
  exact hset a value ha

/-- A record keeps a property if setting what the field's reader yields does. -/
theorem RecordField.keeps_of {name : String} {read : Reader γ} {set : α → γ → α}
    {Q : Nat → γ → Prop} {P : α → Prop} {room : Nat} (h : Yields read Q)
    (hset : ∀ a value, P a → Q room value → P (set a value)) :
    (RecordField.of name read set).Keeps room P := by
  intro node a b ha hread
  obtain ⟨value, hvalue, hb⟩ := Reading.bind_eq_ok_iff.mp hread
  cases hb
  exact hset a value ha (h room node value hvalue)

section Fields

variable {fields : List (RecordField α)} {room : Nat} {P : α → Prop}

/-- A field that is found by its name is one of the fields. -/
theorem keeps_of_findField (h : ∀ field ∈ fields, field.Keeps room P) {key : String}
    {field : RecordField α} (hfind : findField fields key = some field) : field.Keeps room P :=
  h field (List.mem_of_find?_eq_some hfind)

/-- One assignment keeps the property. -/
theorem Progress.assign_keeps {field : RecordField α} (h : field.Keeps room P)
    {progress next : Progress α} (hprogress : P progress.record) {node : Node}
    (hread : progress.assign field room node = .ok next) : P next.record := by
  unfold assign at hread
  split at hread
  · cases hread
  · obtain ⟨record, hrecord, hnext⟩ := Reading.bind_eq_ok_iff.mp hread
    cases hnext
    exact h node progress.record record hprogress hrecord

/-- The members of an object keep the property. -/
theorem readFields_keeps (h : ∀ field ∈ fields, field.Keeps room P) :
    (members : Members) → ∀ progress result : Progress α, P progress.record →
      readFields fields room progress members = .ok result → P result.record
  | .close, _, _, hprogress, hread => by
    cases hread
    exact hprogress
  | .member none _ _, _, _, _, hread => nomatch hread
  | .member (some key) node rest, progress, result, hprogress, hread => by
    rw [readFields] at hread
    cases hfind : findField fields key with
    | none =>
      rw [hfind] at hread
      obtain ⟨_, _, hrest⟩ := Reading.bind_eq_ok_iff.mp hread
      exact readFields_keeps h rest progress result hprogress hrest
    | some field =>
      rw [hfind] at hread
      obtain ⟨next, hnext, hrest⟩ := Reading.bind_eq_ok_iff.mp hread
      have hkept := Progress.assign_keeps (keeps_of_findField h hfind) hprogress hnext
      exact readFields_keeps h rest next result hkept hrest
  | .stop _ _ _, _, _, _, hread => nomatch hread

/-- The items of an array keep the property. -/
theorem readFieldItems_keeps {mode : Mode} {expected : String} {index : Nat}
    (h : ∀ field ∈ fields, field.Keeps room P) {items : Items} {a b : α} (ha : P a)
    (hread : readFieldItems mode expected room index fields a items = .ok b) : P b := by
  induction fields generalizing index items a with
  | nil =>
    obtain ⟨_, _, hb⟩ := Reading.bind_eq_ok_iff.mp hread
    cases hb
    exact ha
  | cons field fields ih =>
    obtain ⟨hfield, hfields⟩ := List.forall_mem_cons.mp h
    cases items with
    | close =>
      rw [readFieldItems] at hread
      split at hread
      · exact ih hfields ha hread
      · cases hread
    | item node rest =>
      obtain ⟨next, hnext, hrest⟩ := Reading.bind_eq_ok_iff.mp hread
      exact ih hfields (hfield node a next ha hnext) hrest
    | stop comma fault => cases hread

/-- A record's own members keep the property. -/
theorem readOwnFields_keeps (h : ∀ field ∈ fields, field.Keeps room P) :
    (members : Members) → ∀ (progress : Progress α) (result : α × List (String × Node)),
      P progress.record → readOwnFields fields room progress members = .ok result → P result.1
  | .close, _, _, hprogress, hread => by
    cases hread
    exact hprogress
  | .member none _ _, _, _, _, hread => nomatch hread
  | .member (some key) node rest, progress, result, hprogress, hread => by
    rw [readOwnFields] at hread
    cases hfind : findField fields key with
    | none =>
      rw [hfind] at hread
      obtain ⟨_, _, hread⟩ := Reading.bind_eq_ok_iff.mp hread
      obtain ⟨inner, hinner, hread⟩ := Reading.bind_eq_ok_iff.mp hread
      cases hread
      exact readOwnFields_keeps h rest progress inner hprogress hinner
    | some field =>
      rw [hfind] at hread
      obtain ⟨next, hnext, hrest⟩ := Reading.bind_eq_ok_iff.mp hread
      have hkept := Progress.assign_keeps (keeps_of_findField h hfind) hprogress hnext
      exact readOwnFields_keeps h rest next result hkept hrest
  | .stop _ _ _, _, _, _, hread => nomatch hread

/-- The members that were kept for a record keep the property. -/
theorem readKeptFields_keeps (h : ∀ field ∈ fields, field.Keeps room P)
    {members : List (String × Node)} {progress : Progress α} {a : α} (hprogress : P progress.record)
    (hread : readKeptFields fields room progress members = .ok a) : P a := by
  induction members generalizing progress with
  | nil =>
    cases hread
    exact hprogress
  | cons member rest ih =>
    obtain ⟨key, node⟩ := member
    rw [readKeptFields] at hread
    cases hfind : findField fields key with
    | none =>
      rw [hfind] at hread
      exact ih hprogress hread
    | some field =>
      rw [hfind] at hread
      obtain ⟨next, hnext, hrest⟩ := Reading.bind_eq_ok_iff.mp hread
      exact ih (Progress.assign_keeps (keeps_of_findField h hfind) hprogress hnext) hrest

/-- A record and one that it takes in are read from the members of one object. -/
theorem exists_of_readMerged {taken : List (RecordField β)} {empty : α} {emptyTaken : β}
    {title : String} {node : Node} {records : α × β}
    (h : readMerged title fields empty taken emptyTaken room node = .ok records) :
    ∃ inner members others, room = inner + 1 ∧
      readOwnFields fields inner ⟨empty, []⟩ members = .ok (records.1, others) ∧
      readKeptFields taken inner ⟨emptyTaken, []⟩ others = .ok records.2 := by
  cases node with
  | obj members =>
    obtain ⟨inner, hinner, h⟩ := Reading.bind_eq_ok_iff.mp h
    obtain ⟨⟨record, others⟩, hown, h⟩ := Reading.bind_eq_ok_iff.mp h
    obtain ⟨other, htaken, h⟩ := Reading.bind_eq_ok_iff.mp h
    cases h
    exact ⟨inner, members, others, enter_eq_ok_iff.mp hinner, hown, htaken⟩
  | _ => exact absurd h Node.mismatch_ne_ok

end Fields

namespace Yields

variable {P : Nat → α → Prop} {Q : Nat → β → Prop} {fields : List (RecordField α)} {empty : α}

/-- A record has a property that the empty record has and each field keeps. -/
theorem record (hempty : ∀ room, P room empty)
    (h : ∀ room, ∀ field ∈ fields, field.Keeps room (P room)) (mode : Mode) (title : String) :
    Yields (readRecord mode title fields empty) (Inside P) := by
  intro room node a hread
  cases node with
  | obj members =>
    obtain ⟨inner, hinner, hread⟩ := Reading.bind_eq_ok_iff.mp hread
    obtain ⟨progress, hprogress, hread⟩ := Reading.bind_eq_ok_iff.mp hread
    refine ⟨inner, enter_eq_ok_iff.mp hinner, ?_⟩
    have hkept := readFields_keeps (h inner) members ⟨empty, []⟩ progress (hempty inner) hprogress
    unfold Progress.complete at hread
    split at hread
    · cases hread
    · cases hread
      exact hkept
  | arr items =>
    obtain ⟨inner, hinner, hread⟩ := Reading.bind_eq_ok_iff.mp hread
    exact ⟨inner, enter_eq_ok_iff.mp hinner, readFieldItems_keeps (h inner) (hempty inner) hread⟩
  | _ => exact absurd hread Node.mismatch_ne_ok

variable {taken : List (RecordField β)} {emptyTaken : β}

/-- A record that takes in another one has a property that the empty one has and each field
keeps. -/
theorem merged_fst (hempty : ∀ room, P room empty)
    (h : ∀ room, ∀ field ∈ fields, field.Keeps room (P room)) (title : String) :
    Yields (readMerged title fields empty taken emptyTaken)
      (Inside fun inner records => P inner records.1) := by
  intro room node records hread
  obtain ⟨inner, members, others, hroom, hown, -⟩ := exists_of_readMerged hread
  exact ⟨inner, hroom, readOwnFields_keeps (h inner) members _ _ (hempty inner) hown⟩

/-- A record that is taken in by another one has a property that the empty one has and each field
keeps. -/
theorem merged_snd (hempty : ∀ room, Q room emptyTaken)
    (h : ∀ room, ∀ field ∈ taken, field.Keeps room (Q room)) (title : String) :
    Yields (readMerged title fields empty taken emptyTaken)
      (Inside fun inner records => Q inner records.2) := by
  intro room node records hread
  obtain ⟨inner, members, others, hroom, -, htaken⟩ := exists_of_readMerged hread
  exact ⟨inner, hroom, readKeptFields_keeps (h inner) (hempty inner) htaken⟩

end Yields

end PluginSchema.Json
