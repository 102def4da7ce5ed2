import Mathlib.Data.List.Nodup
import Mathlib.Data.List.Pairwise
import Mathlib.Data.List.Perm.Basic
import PluginSchema.Proofs.Json.LenientRecord

/-!
# The arrangement of members

The members of an object may be rearranged where no key stands twice: a map is put in order
anyway, and a record has the same value in the end if its fields do not meet each other. Which
error is met first does depend on the arrangement, so only the values of readings are compared.
-/

namespace PluginSchema.Json

variable {α β γ δ : Type}

namespace Reading

/-- The value of two parts is that of the second after the first. -/
theorem toOption_bind (reading : Reading α) (next : α → Reading β) :
    (reading >>= next).toOption = reading.toOption.bind fun value => (next value).toOption := by
  cases reading <;> rfl

/-- Readings have the same value just if they are successes with the same values. -/
theorem toOption_eq_iff {first second : Reading α} :
    first.toOption = second.toOption ↔ ∀ value, first = .ok value ↔ second = .ok value := by
  have hsome (reading : Reading α) (value : α) :
      reading.toOption = some value ↔ reading = .ok value := by
    cases reading <;> simp [Except.toOption]
  simp only [← hsome]
  exact Option.ext_iff

end Reading

open Reading (toOption_bind toOption_eq_iff)

/-- The members of a whole object are read as entries just if each is. -/
theorem readMembers_eq_ok_iff {read : Node → Reading α} {entries : List (String × Node)}
    {values : List (String × α)} :
    readMembers read (.ofList entries) = .ok values ↔
      List.Forall₂ (fun entry value => entry.1 = value.1 ∧ read entry.2 = .ok value.2) entries
        values := by
  induction entries generalizing values with
  | nil => simp [Members.ofList, readMembers, eq_comm]
  | cons entry rest ih =>
    rw [Members.ofList, readMembers, Reading.bind_eq_ok_iff]
    constructor
    · rintro ⟨first, hfirst, hread⟩
      obtain ⟨others, hothers, hvalues⟩ := Reading.bind_eq_ok_iff.mp hread
      cases hvalues
      exact .cons ⟨rfl, hfirst⟩ (ih.mp hothers)
    · rintro (_ | ⟨⟨hname, hfirst⟩, hothers⟩)
      refine ⟨_, hfirst, Reading.bind_eq_ok_iff.mpr ⟨_, ih.mpr hothers, ?_⟩⟩
      rw [hname]
      rfl

/-- A map is built by the entries that are read. -/
theorem toOption_readMap_obj (read : Reader α) (room : Nat) (members : Members) :
    (readMap read (room + 1) (.obj members)).toOption =
      (readMembers (read room) members).toOption.map NameMap.ofList := by
  change (readMembers (read room) members >>= fun values => pure (NameMap.ofList values)).toOption =
    _
  cases readMembers (read room) members <;> rfl

/-- A map is read from rearranged members as from the members, if no key stands twice. -/
theorem toOption_readMap_perm (read : Reader α) (room : Nat) {entries others : List (String × Node)}
    (h : entries.Perm others) (hnodup : (entries.map Prod.fst).Nodup) :
    (readMap read (room + 1) (.obj (.ofList entries))).toOption =
      (readMap read (room + 1) (.obj (.ofList others))).toOption := by
  have hread {entries others : List (String × Node)} (h : entries.Perm others)
      (hnodup : (entries.map Prod.fst).Nodup) {values : List (String × α)}
      (hvalues : readMembers (read room) (.ofList entries) = .ok values) :
      ∃ values', readMembers (read room) (.ofList others) = .ok values' ∧
        NameMap.ofList values' = NameMap.ofList values := by
    have hforall := readMembers_eq_ok_iff.mp hvalues
    have hnames : entries.map Prod.fst = values.map Prod.fst := by
      rw [← List.forall₂_eq_eq_eq, List.forall₂_map_left_iff, List.forall₂_map_right_iff]
      exact hforall.imp fun _ _ hentry => hentry.1
    obtain ⟨values', hforall', hperm⟩ := List.perm_comp_forall₂ h.symm hforall
    exact ⟨values', readMembers_eq_ok_iff.mpr hforall',
      (NameMap.ofList_congr hperm.symm (hnames ▸ hnodup)).symm⟩
  have hothers : (others.map Prod.fst).Nodup := (h.map Prod.fst).nodup_iff.mp hnodup
  rw [toOption_readMap_obj, toOption_readMap_obj]
  cases hvalues : readMembers (read room) (.ofList entries) with
  | ok values =>
    obtain ⟨values', hvalues', hmap⟩ := hread h hnodup hvalues
    rw [hvalues']
    exact congrArg some hmap.symm
  | error error =>
    cases hvalues' : readMembers (read room) (.ofList others) with
    | ok values' =>
      obtain ⟨values, hok, -⟩ := hread h.symm hothers hvalues'
      rw [hok] at hvalues
      cases hvalues
    | error error' => rfl

/-- Entries are read from members as from others whose values are read alike. -/
theorem toOption_readMembers_congr {read : Node → Reading α} {members : List (String × Node × Node)}
    (h : ∀ member ∈ members, (read member.2.1).toOption = (read member.2.2).toOption) :
    (readMembers read (.ofList (members.map fun member => (member.1, member.2.1)))).toOption =
      (readMembers read (.ofList (members.map fun member => (member.1, member.2.2)))).toOption := by
  induction members with
  | nil => rfl
  | cons member rest ih =>
    obtain ⟨hmember, hrest⟩ := List.forall_mem_cons.mp h
    simp only [List.map_cons, Members.ofList, readMembers, toOption_bind, hmember, ih hrest]

/-- A map is read from members as from others that are read alike, in any arrangement. -/
theorem toOption_readMap_rearranged {read : Reader α} {room : Nat}
    {members : List (String × Node × Node)} (hnodup : (members.map Prod.fst).Nodup)
    (h : ∀ member ∈ members, (read room member.2.1).toOption = (read room member.2.2).toOption)
    {others : List (String × Node)}
    (hothers : (members.map fun member => (member.1, member.2.2)).Perm others) :
    (readMap read (room + 1)
        (.obj (.ofList (members.map fun member => (member.1, member.2.1))))).toOption =
      (readMap read (room + 1) (.obj (.ofList others))).toOption := by
  have hkeys : ((members.map fun member => (member.1, member.2.2)).map Prod.fst).Nodup := by
    rwa [List.map_map]
  rw [← toOption_readMap_perm read room hothers hkeys, toOption_readMap_obj, toOption_readMap_obj,
    toOption_readMembers_congr h]

/-- Two fields have the same value in the end, whichever is read first. -/
def RecordField.Independent (first second : RecordField α) : Prop :=
  ∀ (room : Nat) (node other : Node) (record : α),
    (first.read room node record >>= second.read room other).toOption =
      (second.read room other record >>= first.read room node).toOption

namespace RecordField.Independent

/-- It does not matter which of the two is named first. -/
theorem symm {first second : RecordField α} (h : Independent first second) :
    Independent second first := fun room node other record => (h room other node record).symm

instance : Std.Symm (@Independent α) := ⟨fun _ _ => symm⟩

/-- Fields that are set independently are read so. -/
theorem of_set {name name' : String} {read : Reader γ} {read' : Reader δ} {set : α → γ → α}
    {set' : α → δ → α} (h : ∀ record x y, set' (set record x) y = set (set' record y) x) :
    Independent (.of name read set) (.of name' read' set') := by
  intro room node other record
  simp only [RecordField.of, toOption_bind]
  cases read room node <;> cases read' room other
  case ok.ok x y => exact congrArg some (h record x y)
  all_goals rfl

end RecordField.Independent

section Fields

variable {fields : List (RecordField α)} {room : Nat}

/-- What a member makes of a record: it is read for its field, if it has one. -/
def assignMember (fields : List (RecordField α)) (room : Nat) (record : Option α)
    (entry : String × Node) : Option α :=
  match findField fields entry.1 with
  | some field => record.bind fun record => (field.read room entry.2 record).toOption
  | none => record

/-- Without a record nothing is made of members. -/
theorem foldl_assignMember_none (entries : List (String × Node)) :
    entries.foldl (assignMember fields room) none = none := by
  induction entries with
  | nil => rfl
  | cons entry rest ih =>
    have hnone : assignMember fields room none entry = none := by
      unfold assignMember
      split <;> rfl
    rw [List.foldl_cons, hnone, ih]

/-- Where no key stands twice, members are read one after the other without regard to what was
read before. -/
theorem toOption_readKeptFields {entries : List (String × Node)}
    (hnodup : (entries.map Prod.fst).Nodup) {progress : Progress α}
    (hseen : ∀ entry ∈ entries, entry.1 ∉ progress.seen) :
    (readKeptFields fields room progress entries).toOption =
      entries.foldl (assignMember fields room) (some progress.record) := by
  induction entries generalizing progress with
  | nil => rfl
  | cons entry rest ih =>
    obtain ⟨hfirst, hrest⟩ := List.nodup_cons.mp hnodup
    obtain ⟨hentry, hothers⟩ := List.forall_mem_cons.mp hseen
    rw [readKeptFields, List.foldl_cons, assignMember]
    cases hfind : findField fields entry.1 with
    | none => exact ih hrest hothers
    | some field =>
      have hname : field.name = entry.1 := eq_of_beq (List.find?_some hfind :)
      have hassign : progress.assign field room entry.2 = (do
          return ⟨← field.read room entry.2 progress.record, field.name :: progress.seen⟩) := by
        rw [Progress.assign, if_neg (by simpa [hname] using hentry)]
      simp only [hassign]
      cases hread : field.read room entry.2 progress.record with
      | error error =>
        rw [Option.bind_some, hread]
        exact (foldl_assignMember_none rest).symm
      | ok record =>
        rw [Option.bind_some, hread]
        refine ih hrest ?_
        intro other hother
        rw [List.mem_cons, not_or, hname]
        exact ⟨fun heq => hfirst (heq ▸ List.mem_map_of_mem hother), hothers other hother⟩

/-- Members with different keys are read in either order, if the fields are independent. -/
theorem assignMember_comm (hfields : fields.Pairwise RecordField.Independent)
    {first second : String × Node} (hne : first.1 ≠ second.1) (record : Option α) :
    assignMember fields room (assignMember fields room record first) second =
      assignMember fields room (assignMember fields room record second) first := by
  cases hfirst : findField fields first.1 with
  | none => simp only [assignMember, hfirst]
  | some field =>
    cases hsecond : findField fields second.1 with
    | none => simp only [assignMember, hfirst, hsecond]
    | some other =>
      have hname : field.name = first.1 := eq_of_beq (List.find?_some hfirst :)
      have hname' : other.name = second.1 := eq_of_beq (List.find?_some hsecond :)
      have hfieldNe : field ≠ other := by
        rintro rfl
        exact hne (hname.symm.trans hname')
      have hindependent : field.Independent other :=
        hfields.forall (List.mem_of_find?_eq_some hfirst) (List.mem_of_find?_eq_some hsecond)
          hfieldNe
      cases record with
      | none => simp only [assignMember, hfirst, hsecond, Option.bind_none]
      | some record =>
        have hread := hindependent room first.2 second.2 record
        simp only [toOption_bind] at hread
        simp only [assignMember, hfirst, hsecond, Option.bind_some]
        exact hread

/-- A record is read from rearranged members as from the members, if its fields are independent
and no key stands twice. -/
theorem toOption_readKeptFields_perm (hfields : fields.Pairwise RecordField.Independent)
    {entries others : List (String × Node)} (h : entries.Perm others)
    (hnodup : (entries.map Prod.fst).Nodup) (empty : α) :
    (readKeptFields fields room ⟨empty, []⟩ entries).toOption =
      (readKeptFields fields room ⟨empty, []⟩ others).toOption := by
  have hothers : (others.map Prod.fst).Nodup := (h.map Prod.fst).nodup_iff.mp hnodup
  rw [toOption_readKeptFields hnodup (by simp), toOption_readKeptFields hothers (by simp)]
  refine h.foldl_eq' (fun first hfirst second hsecond record => ?_) _
  by_cases hkey : first.1 = second.1
  · rw [List.inj_on_of_nodup_map hnodup hfirst hsecond hkey]
  · exact assignMember_comm hfields hkey record

/-- A record is read from members as from others whose values are read alike for its fields. -/
theorem toOption_readKeptFields_congr {members : List (String × Node × Node)}
    (h : ∀ member ∈ members, ∀ field, findField fields member.1 = some field → ∀ record,
      (field.read room member.2.1 record).toOption = (field.read room member.2.2 record).toOption)
    (progress : Progress α) :
    (readKeptFields fields room progress
        (members.map fun member => (member.1, member.2.1))).toOption =
      (readKeptFields fields room progress
        (members.map fun member => (member.1, member.2.2))).toOption := by
  induction members generalizing progress with
  | nil => rfl
  | cons member rest ih =>
    obtain ⟨hmember, hrest⟩ := List.forall_mem_cons.mp h
    rw [List.map_cons, List.map_cons, readKeptFields, readKeptFields]
    cases hfind : findField fields member.1 with
    | none => exact ih hrest progress
    | some field =>
      have hassign : (progress.assign field room member.2.1).toOption =
          (progress.assign field room member.2.2).toOption := by
        unfold Progress.assign
        split
        · rfl
        · simp only [toOption_bind, hmember field hfind]
      simp only [toOption_bind, hassign, ih hrest]

/-- A record is read from members as from others that are read alike, among which more members
may stand that are not for the record, in any arrangement. -/
theorem toOption_readKeptFields_rearranged (hfields : fields.Pairwise RecordField.Independent)
    {members : List (String × Node × Node)} (hnodup : (members.map Prod.fst).Nodup)
    (h : ∀ member ∈ members, ∀ field, findField fields member.1 = some field → ∀ record,
      (field.read room member.2.1 record).toOption = (field.read room member.2.2 record).toOption)
    {more others : List (String × Node)}
    (hmore : ∀ entry ∈ more, findField fields entry.1 = none)
    (hothers : (members.map (fun member => (member.1, member.2.2)) ++ more).Perm others)
    (empty : α) :
    (readKeptFields fields room ⟨empty, []⟩
        (members.map fun member => (member.1, member.2.1))).toOption =
      (readKeptFields fields room ⟨empty, []⟩ others).toOption := by
  let known (entry : String × Node) : Bool := (findField fields entry.1).isSome
  have hknown (entry : String × Node) (hentry : known entry = false) :
      findField fields entry.1 = none :=
    Option.isNone_iff_eq_none.mp (Option.isSome_eq_false_iff.mp hentry)
  have hfilter : (members.map (fun member => (member.1, member.2.2)) ++ more).filter known =
      (members.map fun member => (member.1, member.2.2)).filter known := by
    have hnone : more.filter known = [] :=
      List.filter_eq_nil_iff.mpr fun entry hentry => by simp [known, hmore entry hentry]
    rw [List.filter_append, hnone, List.append_nil]
  have hkeys : (((members.map fun member => (member.1, member.2.2)).filter known).map
      Prod.fst).Nodup := by
    have hsublist := (List.filter_sublist (p := known)
      (l := members.map fun member => (member.1, member.2.2))).map Prod.fst
    rw [List.map_map] at hsublist
    exact hsublist.nodup hnodup
  rw [toOption_readKeptFields_congr h, ← readKeptFields_filter hknown,
    ← readKeptFields_filter hknown others]
  exact toOption_readKeptFields_perm hfields (hfilter ▸ hothers.filter known) hkeys empty

/-- A record is read from an array as from another one whose items are read alike. -/
theorem toOption_readFieldItems_congr {mode : Mode} {expected : String} {items : List (Node × Node)}
    (h : ∀ (index : Nat) (field : RecordField α) (item : Node × Node),
      fields[index]? = some field → items[index]? = some item →
      ∀ record, (field.read room item.1 record).toOption = (field.read room item.2 record).toOption)
    (index : Nat) (record : α) :
    (readFieldItems mode expected room index fields record
        (.ofList (items.map Prod.fst))).toOption =
      (readFieldItems mode expected room index fields record
        (.ofList (items.map Prod.snd))).toOption := by
  induction fields generalizing items index record with
  | nil =>
    cases items with
    | nil => rfl
    | cons item rest => cases mode <;> rfl
  | cons field fields ih =>
    cases items with
    | nil => rfl
    | cons item rest =>
      have hfirst := h 0 field item rfl rfl
      have hrest := ih fun index field item hfield hitem =>
        h (index + 1) field item hfield hitem
      simp only [List.map_cons, Items.ofList, readFieldItems, toOption_bind, hfirst, hrest]

end Fields

end PluginSchema.Json
