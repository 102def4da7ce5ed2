import Mathlib.Data.List.Forall2
import PluginSchema.Json.Variant
import PluginSchema.Proofs.Json.Whole

/-!
# Strict and lenient readers

Of two readers one may be stricter: both read the same from every whole value, except that only
the lenient one reads values with some property. The two modes of reading a variant are such a
pair, where the property is that a name without content is given an empty object. This carries
over to maps and records of such values, where one of the parts must have the property.
-/

namespace PluginSchema.Json

variable {α β γ : Type}

/-- Two readings have one value, unless a condition holds: then only the second has one. -/
def Reading.Unless (condition : Prop) (strict lenient : Reading α) : Prop :=
  ∀ value, strict = .ok value ↔ lenient = .ok value ∧ ¬condition

/-- Two parts yield a value just if the second does after the first. -/
theorem Reading.bind_eq_ok_iff {reading : Reading α} {next : α → Reading β} {value : β} :
    reading >>= next = .ok value ↔ ∃ first, reading = .ok first ∧ next first = .ok value := by
  cases reading with
  | error error => simp [Bind.bind, Except.bind]
  | ok first => simp [Bind.bind, Except.bind]

namespace Reading.Unless

variable {p q : Prop} {strict lenient : Reading α}

/-- The condition may be given in another way. -/
theorem congr (h : Unless p strict lenient) (hpq : p ↔ q) : Unless q strict lenient :=
  fun value => by rw [h value, hpq]

/-- One reading is like itself. -/
theorem refl (hp : ¬p) (reading : Reading α) : Unless p reading reading := fun _ => by simp [hp]

/-- Where neither reading has a value, they are alike. -/
theorem of_ne_ok (hstrict : ∀ value, strict ≠ .ok value) (hlenient : ∀ value, lenient ≠ .ok value) :
    Unless p strict lenient := fun value => by simp [hstrict value, hlenient value]

/-- Two errors are alike. -/
theorem errors (first second : ReadError) :
    Unless p (.error first : Reading α) (.error second) :=
  of_ne_ok (fun _ => by simp) fun _ => by simp

/-- Readings that go on in like ways are like each other, unless the one or the other part is
not. -/
theorem bind {next other : α → Reading β} (h : Unless p strict lenient)
    (hnext : ∀ value, lenient = .ok value → Unless q (next value) (other value)) :
    Unless (p ∨ q) (strict >>= next) (lenient >>= other) := by
  intro result
  rw [bind_eq_ok_iff, bind_eq_ok_iff, not_or]
  constructor
  · rintro ⟨value, hvalue, hresult⟩
    obtain ⟨hlenient, hp⟩ := (h value).mp hvalue
    obtain ⟨hother, hq⟩ := (hnext value hlenient result).mp hresult
    exact ⟨⟨value, hlenient, hother⟩, hp, hq⟩
  · rintro ⟨⟨value, hlenient, hother⟩, hp, hq⟩
    exact ⟨value, (h value).mpr ⟨hlenient, hp⟩, (hnext value hlenient result).mpr ⟨hother, hq⟩⟩

/-- A value that is changed afterwards makes no difference. -/
theorem map (h : Unless p strict lenient) (change : α → β) :
    Unless p (strict >>= fun value => pure (change value))
      (lenient >>= fun value => pure (change value)) :=
  (h.bind fun value _ => refl not_false (pure (change value))).congr (iff_of_eq (or_false p))

end Reading.Unless

open Reading (Unless)

section Readers

variable {levels levels' : Nat} {P Q : Node → Prop} {strict lenient : Reader α}

/-- Two readers have room for so many nested containers, and less than they are limited to. -/
structure Rooms (levels levels' depth room room' : Nat) : Prop where
  le : depth ≤ room
  le' : depth ≤ room'
  lt : room < levels
  lt' : room' < levels'

/-- Inside of a container there is room for what nests in it. -/
theorem Rooms.enter {depth room room' : Nat}
    (h : Rooms (levels + 1) (levels' + 1) (depth + 1) room room') :
    ∃ inner inner', room = inner + 1 ∧ room' = inner' + 1 ∧
      Rooms levels levels' depth inner inner' := by
  obtain ⟨hle, hle', hlt, hlt'⟩ := h
  exact ⟨room - 1, room' - 1, by omega, by omega, by omega, by omega, by omega, by omega⟩

/-- Two readers have one value for every whole value that they have room for, unless the value has
a property. -/
structure ReadsUnless (levels levels' : Nat) (P : Node → Prop) (strict lenient : Reader α) :
    Prop where
  alike : ∀ {depth room room' : Nat} {node : Node}, node.Within depth →
    Rooms levels levels' depth room room' → Unless (P node) (strict room node) (lenient room' node)

namespace ReadsUnless

/-- What holds for much room holds for little. -/
theorem mono (h : ReadsUnless levels levels' P strict lenient) {fewer fewer' : Nat}
    (hle : fewer ≤ levels) (hle' : fewer' ≤ levels') :
    ReadsUnless fewer fewer' P strict lenient where
  alike hnode hrooms := h.alike hnode ⟨hrooms.le, hrooms.le', Nat.lt_of_lt_of_le hrooms.lt hle,
    Nat.lt_of_lt_of_le hrooms.lt' hle'⟩

/-- The property may be given in another way. -/
theorem congr (h : ReadsUnless levels levels' P strict lenient) (hPQ : ∀ node, P node ↔ Q node) :
    ReadsUnless levels levels' Q strict lenient where
  alike hnode hrooms := (h.alike hnode hrooms).congr (hPQ _)

/-- A reader to which room does not matter is like itself. -/
theorem refl {read : Reader α} (hread : ∀ room room' node, read room node = read room' node)
    (hP : ∀ node, ¬P node) : ReadsUnless levels levels' P read read where
  alike {_ room room' node} _ _ := by
    rw [hread room room' node]
    exact .refl (hP node) _

/-- Truth values. -/
theorem readBool (hP : ∀ node, ¬P node) :
    ReadsUnless levels levels' P Json.readBool Json.readBool :=
  refl (fun _ _ node => by cases node <;> rfl) hP

/-- Texts. -/
theorem readString (hP : ∀ node, ¬P node) :
    ReadsUnless levels levels' P Json.readString Json.readString :=
  refl (fun _ _ node => by rcases node with _ | _ | _ | (_ | _) | _ | _ | _ <;> rfl) hP

/-- Numbers of 64 bits. -/
theorem readUInt64 (hP : ∀ node, ¬P node) :
    ReadsUnless levels levels' P Json.readUInt64 Json.readUInt64 :=
  refl (fun _ _ node => by rcases node with _ | _ | (_ | _ | _) | _ | _ | _ | _ <;> rfl) hP

/-- Values that may be absent. -/
theorem optional (h : ReadsUnless levels levels' P strict lenient) (hnull : ¬P .null) :
    ReadsUnless levels levels' P (readOptional strict) (readOptional lenient) where
  alike hnode hrooms := by
    have hread := (h.alike hnode hrooms).map some
    cases hnode with
    | null => exact .refl hnull _
    | _ => exact hread

/-- A value that is changed after it is read makes no difference. -/
theorem map (h : ReadsUnless levels levels' P strict lenient) (change : α → β) :
    ReadsUnless levels levels' P (fun room node => return change (← strict room node))
      (fun room node => return change (← lenient room node)) where
  alike hnode hrooms := (h.alike hnode hrooms).map change

end ReadsUnless

/-- The members of a map. -/
theorem readMembers_unless {first second : Node → Reading α} {entries : List (String × Node)}
    (h : ∀ entry ∈ entries, Unless (P entry.2) (first entry.2) (second entry.2)) :
    Unless (∃ entry ∈ entries, P entry.2) (readMembers first (.ofList entries))
      (readMembers second (.ofList entries)) := by
  induction entries with
  | nil => exact .refl (by simp) _
  | cons entry rest ih =>
    obtain ⟨hentry, hrest⟩ := List.forall_mem_cons.mp h
    have hboth := hentry.bind fun value _ => (ih hrest).map fun others => (entry.1, value) :: others
    exact hboth.congr (by simp)

/-- An object with one member is read as a map of its value. -/
theorem readMap_singleton (read : Reader α) (room : Nat) (name : String) (node : Node) :
    readMap read (room + 1) (.obj (.ofList [(name, node)])) =
      (fun value => [(name, value)]) <$> read room node := by
  change (do
    let members ← readMembers (read room) (.member (some name) node .close)
    return NameMap.ofList members) = _
  rw [readMembers]
  cases read room node <;> rfl

/-- Maps. -/
theorem ReadsUnless.readMap (h : ReadsUnless levels levels' P strict lenient) :
    ReadsUnless (levels + 1) (levels' + 1) (fun node => ∃ part ∈ node.parts [], P part.2)
      (readMap strict) (readMap lenient) := by
  refine ⟨fun hnode hrooms => ?_⟩
  cases hnode with
  | @obj depth entries hentries =>
    obtain ⟨room, room', rfl, rfl, hroomsBelow⟩ := hrooms.enter
    have hmembers := readMembers_unless fun entry hentry =>
      h.alike (hentries entry hentry) hroomsBelow
    exact (hmembers.map NameMap.ofList).congr (by simp)
  | _ => exact .errors _ _

end Readers

section Variants

variable {levels levels' : Nat} {P : String → Node → Prop}

/-- Two variants of one name: the same value, where the property is an empty object as content, or
two readers of content. -/
inductive VariantUnless (levels levels' : Nat) (P : Node → Prop) : Variant α → Variant α → Prop
  | bare (value : α) (h : ∀ node, P node ↔ node = .obj .close) :
      VariantUnless levels levels' P (.bare value) (.bare value)
  | content {strict lenient : Reader α} (h : ReadsUnless levels levels' P strict lenient) :
      VariantUnless levels levels' P (.content strict) (.content lenient)

/-- Two lists of variants under the same names. -/
def VariantsUnless (levels levels' : Nat) (P : String → Node → Prop) :
    List (String × Variant α) → List (String × Variant α) → Prop :=
  List.Forall₂ fun strict lenient =>
    strict.1 = lenient.1 ∧ VariantUnless levels levels' (P strict.1) strict.2 lenient.2

variable {strict lenient : List (String × Variant α)}

/-- A name has a variant in both lists or in none. -/
theorem VariantsUnless.lookup (h : VariantsUnless levels levels' P strict lenient) (name : String) :
    Option.Rel (VariantUnless levels levels' (P name)) (strict.lookup name)
      (lenient.lookup name) := by
  induction h with
  | nil => exact .none
  | @cons first second _ _ hfirst _ ih =>
    rcases first with ⟨key, variant⟩
    rcases second with ⟨_, other⟩
    obtain ⟨rfl, hvariant⟩ := hfirst
    rw [List.lookup_cons, List.lookup_cons]
    cases hkey : name == key with
    | false => exact ih
    | true =>
      obtain rfl := beq_iff_eq.mp hkey
      exact .some hvariant

/-- Nothing and an empty object, as content of a name without content. -/
theorem readNothing_unless {depth : Nat} {node : Node} (hnode : node.Within depth) :
    Unless (node = .obj .close) (readNothing .direct node) (readNothing .buffered node) := by
  cases hnode with
  | null => exact .refl (by simp) _
  | @obj _ entries _ =>
    cases entries with
    | nil => exact fun _ => iff_of_false nofun fun h => h.2 rfl
    | cons entry rest => exact .errors _ _
  | _ => exact .errors _ _

/-- The one member of an object that names a variant. -/
theorem VariantsUnless.readTagged (h : VariantsUnless levels levels' P strict lenient)
    {depth room room' : Nat} (name : String) {node : Node} (hnode : node.Within depth)
    (hrooms : Rooms levels levels' depth room room') :
    Unless (P name node) (readTagged .direct strict room (.ofList [(name, node)]))
      (readTagged .buffered lenient room' (.ofList [(name, node)])) := by
  have hlookup := h.lookup name
  have hend (value : α) : Unless False (do Members.close.readEnd; return value : Reading α)
      (do Members.close.readEnd; return value) := .refl not_false _
  simp only [Members.ofList, Json.readTagged, findVariant]
  cases hstrict : strict.lookup name <;> cases hlenient : lenient.lookup name <;>
    rw [hstrict, hlenient] at hlookup <;> cases hlookup
  case none.none => exact .errors _ _
  case some.some first second hvariant =>
    cases hvariant with
    | bare value hP =>
      have hnothing := (readNothing_unless hnode).bind fun _ _ => hend value
      refine hnothing.congr ?_
      rw [hP, or_false]
    | content hread =>
      have hcontent := (hread.alike hnode hrooms).bind fun value _ => hend value
      exact hcontent.congr (iff_of_eq (or_false _))

/-- No variant is read from an object with a second member. -/
theorem readTagged_ne_ok (mode : Mode) (variants : List (String × Variant α)) (room : Nat)
    (first second : String × Node) (rest : List (String × Node)) (value : α) :
    Json.readTagged mode variants room (.ofList (first :: second :: rest)) ≠ .ok value := by
  intro h
  obtain ⟨variant, -, hcontent⟩ := Reading.bind_eq_ok_iff.mp h
  cases variant with
  | bare value =>
    obtain ⟨_, -, hend⟩ := Reading.bind_eq_ok_iff.mp hcontent
    cases hend
  | content read =>
    obtain ⟨_, -, hend⟩ := Reading.bind_eq_ok_iff.mp hcontent
    cases hend

/-- Variants. -/
theorem VariantsUnless.readVariant (h : VariantsUnless levels levels' P strict lenient) :
    ReadsUnless (levels + 1) (levels' + 1)
      (fun node => ∃ part ∈ node.parts [], P part.1 part.2)
      (readVariant .direct strict) (readVariant .buffered lenient) := by
  refine ⟨fun hnode hrooms => ?_⟩
  cases hnode with
  | str text =>
    have hlookup := h.lookup text
    simp only [Json.readVariant, findVariant]
    cases hstrict : strict.lookup text <;> cases hlenient : lenient.lookup text <;>
      rw [hstrict, hlenient] at hlookup <;> cases hlookup
    case none.none => exact .errors _ _
    case some.some hvariant =>
      cases hvariant with
      | bare value _ => exact .refl (by simp [Node.parts]) _
      | content _ => exact .errors _ _
  | @obj depth entries hentries =>
    obtain ⟨room, room', rfl, rfl, hroomsBelow⟩ := hrooms.enter
    rcases entries with _ | ⟨⟨name, content⟩, _ | ⟨second, rest⟩⟩
    · exact .errors _ _
    · have htagged := h.readTagged name (hentries (name, content) (.head _)) hroomsBelow
      exact htagged.congr (by simp)
    · -- the direct reader reads the content first and then refuses the second member
      refine .of_ne_ok (readTagged_ne_ok .direct strict room (name, content) second rest) ?_
      intro value hvalue
      cases hvalue
  | _ => exact .errors _ _

end Variants

end PluginSchema.Json
