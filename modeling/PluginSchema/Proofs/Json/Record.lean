import PluginSchema.Json.Record
import PluginSchema.Proofs.Json.Reading

/-!
# Reading written records

The members of a written object are assigned to the fields of a record one after the other. If
each is read for its field and no key stands twice, the object is read as the record that comes
out at the end. The same holds of a record that takes in the members of another one, where each
member goes to the record that has the field.
-/

namespace PluginSchema.Json

variable {α β γ : Type}

/-- A field is read as its value is. -/
theorem RecordField.read_of {name : String} {read : Reader γ} {set : α → γ → α} {room : Nat}
    {node : Node} {a : α} {x : γ} (h : read room node = .ok x) :
    (RecordField.of name read set).read room node a = .ok (set a x) := by
  change (do return set a (← read room node) : Reading α) = _
  rw [h]
  rfl

/-- The names of the fields that an object must have. -/
def requiredNames (fields : List (RecordField α)) : List String :=
  (fields.filter (·.presence == .required)).map (·.name)

/-- The key of a member that may be absent is its only one. -/
theorem Value.keys_optional (key : String) (write : γ → Value) (x : Option γ) :
    ((Value.optional key write x).map Prod.fst).Sublist [key] := by
  cases x with
  | none => exact List.nil_sublist _
  | some _ => exact List.Sublist.refl _

/-- Written members are assigned to fields one after the other, which changes one record into
another. -/
inductive Assigns (fields : List (RecordField α)) (room : Nat) :
    α → List (String × Value) → α → Prop
  | nil (a : α) : Assigns fields room a [] a
  | cons {key : String} {field : RecordField α} {value : Value} {rest : List (String × Value)}
      {a b c : α} (hfind : findField fields key = some field)
      (hread : field.read room value.node a = .ok b) (hrest : Assigns fields room b rest c) :
      Assigns fields room a ((key, value) :: rest) c

namespace Assigns

variable {fields : List (RecordField α)} {field : RecordField α} {room : Nat}
  {members others : List (String × Value)} {key : String} {a b c : α}

/-- A member is assigned if the value of its field is read. -/
theorem member {read : Reader γ} {set : α → γ → α} {value : Value} {x : γ}
    (hfind : findField fields key = some field)
    (hfield : field.read = (RecordField.of key read set).read)
    (hread : read room value.node = .ok x) (hset : set a x = b)
    (hrest : Assigns fields room b others c) :
    Assigns fields room a ((key, value) :: others) c := by
  subst hset
  refine .cons hfind ?_ hrest
  rw [hfield]
  exact RecordField.read_of hread

/-- Members are assigned behind others. -/
theorem append (h : Assigns fields room a members b) (hothers : Assigns fields room b others c) :
    Assigns fields room a (members ++ others) c := by
  induction h with
  | nil => exact hothers
  | cons hfind hread _ ih => exact .cons hfind hread (ih hothers)

/-- A member that may be absent is assigned, if it is absent from the record so far. -/
theorem optional {read : Reader γ} {write : γ → Value} {set : α → Option γ → α} {x : Option γ}
    (hfind : findField fields key = some field)
    (hfield : field.read = (RecordField.of key (readOptional read) set).read)
    (hread : ∀ y ∈ x, read room (write y).node = .ok y) (habsent : set a none = a)
    (hset : set a x = b) : Assigns fields room a (Value.optional key write x) b := by
  cases x with
  | none =>
    obtain rfl : a = b := habsent.symm.trans hset
    exact .nil a
  | some y => exact .member hfind hfield (readOptional_node (hread y rfl)) hset (.nil b)

/-- A member is assigned to a field of its name that was not read before. -/
theorem assign_eq {seen : List String} {node : Node} (hfind : findField fields key = some field)
    (hread : field.read room node a = .ok b) (hseen : key ∉ seen) :
    Progress.assign ⟨a, seen⟩ field room node = .ok ⟨b, key :: seen⟩ := by
  obtain rfl : field.name = key := eq_of_beq (List.find?_some hfind :)
  rw [Progress.assign, if_neg (by simpa using hseen), hread]
  rfl

/-- The first of some keys was not seen before, and the others still differ once it was. -/
theorem nodup_seen {keys seen : List String} (h : (key :: keys ++ seen).Nodup) :
    key ∉ seen ∧ (keys ++ key :: seen).Nodup := by
  rw [List.cons_append] at h
  obtain ⟨hkey, -⟩ := List.nodup_cons.mp h
  exact ⟨fun hseen => hkey (List.mem_append_right keys hseen), List.perm_middle.nodup_iff.mpr h⟩

/-- Members that are assigned are read, each for its field, if no key stands twice. -/
theorem readFields_memberNodes (h : Assigns fields room a members b) {seen : List String}
    (hnodup : (members.map Prod.fst ++ seen).Nodup) :
    readFields fields room ⟨a, seen⟩ (Value.memberNodes members) =
      .ok ⟨b, (members.map Prod.fst).reverse ++ seen⟩ := by
  induction h generalizing seen with
  | nil => rfl
  | @cons key field value rest _ _ _ hfind hread _ ih =>
    obtain ⟨hseen, hrest⟩ := nodup_seen hnodup
    rw [Value.memberNodes, readFields]
    simp only [hfind, assign_eq hfind hread hseen]
    change readFields fields room ⟨_, key :: seen⟩ _ = _
    rw [ih hrest, List.map_cons, List.reverse_cons, List.append_assoc, List.singleton_append]

/-- A written object is read as the record that its members make of the empty one, if no key
stands twice and no field is missing that an object must have. -/
theorem readRecord_node {empty x : α} (h : Assigns fields room empty members x)
    (hnodup : (members.map Prod.fst).Nodup)
    (hrequired : ∀ name ∈ requiredNames fields, name ∈ members.map Prod.fst) (mode : Mode)
    (title : String) :
    readRecord mode title fields empty (room + 1) (Value.obj members).node = .ok x := by
  have hmembers := h.readFields_memberNodes (by rwa [List.append_nil])
  have hcomplete : Progress.complete fields ⟨x, (members.map Prod.fst).reverse ++ []⟩ = .ok x := by
    have hnone : fields.find? (fun field => field.presence == .required &&
        !((members.map Prod.fst).reverse ++ []).contains field.name) = none := by
      rw [List.find?_eq_none]
      intro field hfield hmissing
      simp only [Bool.and_eq_true, beq_iff_eq, Bool.not_eq_true', List.contains_eq_mem,
        decide_eq_false_iff_not, List.append_nil, List.mem_reverse] at hmissing
      refine hmissing.2 (hrequired field.name (List.mem_map_of_mem ?_))
      exact List.mem_filter.mpr ⟨hfield, beq_iff_eq.mpr hmissing.1⟩
    rw [Progress.complete]
    simp only [hnone]
  change (readFields fields room ⟨empty, []⟩ (Value.memberNodes members)).bind
    (Progress.complete fields) = _
  rw [hmembers]
  exact hcomplete

end Assigns

/-- Written members are assigned to the own fields of a record or else to the fields of another
one, which changes one pair of records into another. -/
inductive Merges (own : List (RecordField α)) (taken : List (RecordField β)) (room : Nat) :
    α → β → List (String × Value) → α → β → Prop
  | nil (a : α) (b : β) : Merges own taken room a b [] a b
  | own {key : String} {field : RecordField α} {value : Value} {rest : List (String × Value)}
      {a a' a'' : α} {b b'' : β} (hfind : findField own key = some field)
      (hread : field.read room value.node a = .ok a')
      (hrest : Merges own taken room a' b rest a'' b'') :
      Merges own taken room a b ((key, value) :: rest) a'' b''
  | taken {key : String} {field : RecordField β} {value : Value} {rest : List (String × Value)}
      {a a'' : α} {b b' b'' : β} (hown : findField own key = none)
      (hfind : findField taken key = some field) (hread : field.read room value.node b = .ok b')
      (hrest : Merges own taken room a b' rest a'' b'') :
      Merges own taken room a b ((key, value) :: rest) a'' b''

namespace Merges

variable {own : List (RecordField α)} {taken : List (RecordField β)} {room : Nat}
  {members others : List (String × Value)} {a a' a'' : α} {b b' b'' : β}

/-- Members are assigned behind others. -/
theorem append (h : Merges own taken room a b members a' b')
    (hothers : Merges own taken room a' b' others a'' b'') :
    Merges own taken room a b (members ++ others) a'' b'' := by
  induction h with
  | nil => exact hothers
  | own hfind hread _ ih => exact .own hfind hread (ih hothers)
  | taken hown hfind hread _ ih => exact .taken hown hfind hread (ih hothers)

/-- Members that are assigned to own fields leave the other record. -/
theorem ofOwn (h : Assigns own room a members a') (b : β) :
    Merges own taken room a b members a' b := by
  induction h with
  | nil a => exact .nil a b
  | cons hfind hread _ ih => exact .own hfind hread ih

/-- Members that are assigned to fields of the other record, and have no name of an own field,
leave the record itself. -/
theorem ofTaken (h : Assigns taken room b members b') (a : α)
    (hown : ∀ entry ∈ members, findField own entry.1 = none) :
    Merges own taken room a b members a b' := by
  induction h with
  | nil b => exact .nil a b
  | cons hfind hread _ ih =>
    obtain ⟨hfirst, hrest⟩ := List.forall_mem_cons.mp hown
    exact .taken hfirst hfind hread (ih hrest)

/-- A record's own members are read and the others kept and read afterwards, if no key stands
twice. -/
theorem readOwnFields_memberNodes (h : Merges own taken room a b members a' b')
    {seen seenTaken : List String} (hnodup : (members.map Prod.fst ++ seen).Nodup)
    (hnodupTaken : (members.map Prod.fst ++ seenTaken).Nodup)
    (hdepth : ∀ entry ∈ members, entry.2.depth ≤ room) :
    ∃ kept, readOwnFields own room ⟨a, seen⟩ (Value.memberNodes members) = .ok (a', kept) ∧
      readKeptFields taken room ⟨b, seenTaken⟩ kept = .ok b' := by
  induction h generalizing seen seenTaken with
  | nil => exact ⟨[], rfl, rfl⟩
  | own hfind hread _ ih =>
    obtain ⟨-, hdepthRest⟩ := List.forall_mem_cons.mp hdepth
    obtain ⟨hseen, hrest⟩ := Assigns.nodup_seen hnodup
    obtain ⟨kept, hown, hkept⟩ := ih hrest (List.nodup_cons.mp hnodupTaken).2 hdepthRest
    refine ⟨kept, ?_, hkept⟩
    rw [Value.memberNodes, readOwnFields]
    simp only [hfind, Assigns.assign_eq hfind hread hseen]
    exact hown
  | @taken key _ value _ _ _ _ _ _ hnone hfind hread _ ih =>
    obtain ⟨hvalue, hdepthRest⟩ := List.forall_mem_cons.mp hdepth
    obtain ⟨hseen, hrest⟩ := Assigns.nodup_seen hnodupTaken
    obtain ⟨kept, hown, hkept⟩ := ih (List.nodup_cons.mp hnodup).2 hrest hdepthRest
    refine ⟨(key, value.node) :: kept, ?_, ?_⟩
    · rw [Value.memberNodes, readOwnFields]
      simp only [hnone, Node.lookThrough_node value room hvalue]
      change (readOwnFields own room _ _).bind _ = _
      rw [hown]
      rfl
    · rw [readKeptFields]
      simp only [hfind, Assigns.assign_eq hfind hread hseen]
      exact hkept

/-- A written object is read as a record and the record that it takes in, if its members make both
of empty ones and no key stands twice. -/
theorem readMerged_node {empty x : α} {emptyTaken y : β}
    (h : Merges own taken room empty emptyTaken members x y)
    (hnodup : (members.map Prod.fst).Nodup) (hdepth : ∀ entry ∈ members, entry.2.depth ≤ room)
    (title : String) :
    readMerged title own empty taken emptyTaken (room + 1) (Value.obj members).node =
      .ok (x, y) := by
  have hkeys : (members.map Prod.fst ++ []).Nodup := by rwa [List.append_nil]
  obtain ⟨kept, hown, hkept⟩ := h.readOwnFields_memberNodes hkeys hkeys hdepth
  change (readOwnFields own room ⟨empty, []⟩ (Value.memberNodes members)).bind
    (fun read => (readKeptFields taken room ⟨emptyTaken, []⟩ read.2).bind
      fun inner => .ok (read.1, inner)) = _
  rw [hown]
  change (readKeptFields taken room ⟨emptyTaken, []⟩ kept).bind _ = _
  rw [hkept]
  rfl

end Merges

end PluginSchema.Json
