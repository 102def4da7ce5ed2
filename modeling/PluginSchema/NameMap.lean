/-!
# Maps from names

A map from names to values is the list of its entries by ascending name. Names compare by
their code points, so listing a map always gives the same order. `insert` and `ofList` keep
the order, and the last value given for a name wins.

The order is a property of the list, `Ascending`, and not a field of a type: the maps stand
inside recursive types, where a field may not speak of the entries' names.
-/

namespace PluginSchema

/-- The entries of a map from names, by ascending name. -/
abbrev NameMap (α : Type) := List (String × α)

namespace NameMap

variable {α : Type}

/-- Each name is below all that follow it, so no name stands twice. -/
def Ascending (entries : NameMap α) : Prop :=
  entries.Pairwise fun earlier later => earlier.1 < later.1

instance (entries : NameMap α) : Decidable entries.Ascending :=
  inferInstanceAs (Decidable (List.Pairwise _ entries))

/-- Set the value of a name, at its place in the order. -/
def insert (name : String) (value : α) : NameMap α → NameMap α
  | [] => [(name, value)]
  | (other, old) :: rest =>
    if name < other then (name, value) :: (other, old) :: rest
    else if name = other then (name, value) :: rest
    else (other, old) :: insert name value rest

/-- The map that a sequence of assignments builds. -/
def ofList (entries : List (String × α)) : NameMap α :=
  entries.foldl (fun built entry => insert entry.1 entry.2 built) []

/-- The value of a name. -/
def get? (entries : NameMap α) (name : String) : Option α :=
  List.lookup name entries

/-- Of two names that differ, one is below the other. -/
theorem lt_of_not_lt {a b : String} (h : ¬a < b) (hne : a ≠ b) : b < a :=
  Std.lt_of_le_of_ne (String.not_lt.mp h) (Ne.symm hne)

/-- An entry of a map after an insertion is the one inserted or was there before. -/
theorem mem_of_mem_insert {name : String} {value : α} {entries : NameMap α} {entry : String × α}
    (h : entry ∈ insert name value entries) : entry = (name, value) ∨ entry ∈ entries := by
  induction entries with
  | nil => simpa [insert] using h
  | cons first rest ih =>
    rw [insert] at h
    split at h
    · simpa using h
    · split at h
      · rcases List.mem_cons.mp h with h | h
        · exact .inl h
        · exact .inr (List.mem_cons_of_mem _ h)
      · rcases List.mem_cons.mp h with h | h
        · exact .inr (h ▸ List.mem_cons_self)
        · exact (ih h).imp_right (List.mem_cons_of_mem _)

/-- Insertion keeps the order. -/
theorem ascending_insert {entries : NameMap α} (h : entries.Ascending) (name : String)
    (value : α) : Ascending (insert name value entries) := by
  induction entries with
  | nil => simp [insert, Ascending]
  | cons first rest ih =>
    obtain ⟨hfirst, hrest⟩ := List.pairwise_cons.mp h
    rw [insert]
    split
    next hlt =>
      refine List.pairwise_cons.mpr ⟨fun entry hentry => ?_, h⟩
      rcases List.mem_cons.mp hentry with rfl | hentry
      · exact hlt
      · exact String.lt_trans hlt (hfirst entry hentry)
    next hlt =>
      split
      next heq =>
        exact List.pairwise_cons.mpr ⟨fun entry hentry => heq ▸ hfirst entry hentry, hrest⟩
      next hne =>
        refine List.pairwise_cons.mpr ⟨fun entry hentry => ?_, ih hrest⟩
        rcases mem_of_mem_insert hentry with rfl | hentry
        · exact lt_of_not_lt hlt hne
        · exact hfirst entry hentry

/-- Assignments to an ordered map leave it ordered. -/
theorem ascending_foldl_insert (entries : List (String × α)) {start : NameMap α}
    (h : Ascending start) :
    Ascending (entries.foldl (fun built entry => insert entry.1 entry.2 built) start) := by
  induction entries generalizing start with
  | nil => exact h
  | cons entry rest ih => exact ih (ascending_insert h entry.1 entry.2)

/-- Every sequence of assignments builds an ordered map. -/
theorem ascending_ofList (entries : List (String × α)) : Ascending (ofList entries) :=
  ascending_foldl_insert entries List.Pairwise.nil

/-- An entry of a map after assignments is one of those assigned or was there before. -/
theorem mem_of_mem_foldl_insert {entries : List (String × α)} {start : NameMap α}
    {entry : String × α}
    (h : entry ∈ entries.foldl (fun built entry => insert entry.1 entry.2 built) start) :
    entry ∈ entries ∨ entry ∈ start := by
  induction entries generalizing start with
  | nil => exact .inr h
  | cons first rest ih =>
    rcases ih h with hrest | hstart
    · exact .inl (List.mem_cons_of_mem _ hrest)
    · rcases mem_of_mem_insert hstart with rfl | hstart
      · exact .inl List.mem_cons_self
      · exact .inr hstart

/-- The entries of a map were assigned to it. -/
theorem mem_of_mem_ofList {entries : List (String × α)} {entry : String × α}
    (h : entry ∈ ofList entries) : entry ∈ entries :=
  (mem_of_mem_foldl_insert h).resolve_right nofun

/-- A name above all others of a map is set behind them. -/
theorem insert_eq_append {entries : NameMap α} {name : String}
    (h : ∀ entry ∈ entries, entry.1 < name) (value : α) :
    insert name value entries = entries ++ [(name, value)] := by
  induction entries with
  | nil => rfl
  | cons first rest ih =>
    obtain ⟨hfirst, hrest⟩ := List.forall_mem_cons.mp h
    have hlt : ¬name < first.1 := fun hlt => String.lt_irrefl name (String.lt_trans hlt hfirst)
    have hne : name ≠ first.1 := fun heq => String.lt_irrefl name (heq ▸ hfirst)
    rw [insert, if_neg hlt, if_neg hne, ih hrest, List.cons_append]

/-- Assignments in ascending order to a map below them are appended to it. -/
theorem foldl_insert_eq_append {entries : List (String × α)} {start : NameMap α}
    (h : Ascending (start ++ entries)) :
    entries.foldl (fun built entry => insert entry.1 entry.2 built) start = start ++ entries := by
  induction entries generalizing start with
  | nil => rw [List.foldl_nil, List.append_nil]
  | cons entry rest ih =>
    have hbelow : ∀ earlier ∈ start, earlier.1 < entry.1 := fun earlier hearlier =>
      (List.pairwise_append.mp h).2.2 earlier hearlier entry (.head _)
    rw [List.append_cons] at h
    rw [List.foldl_cons, insert_eq_append hbelow, ih h, List.append_assoc, List.singleton_append]

/-- Assignments in ascending order are the map that they build. -/
theorem ofList_eq_self {entries : List (String × α)} (h : Ascending entries) :
    ofList entries = entries := foldl_insert_eq_append h

/-- Setting a new name adds its entry. -/
theorem insert_perm {entries : NameMap α} {name : String} (h : ∀ entry ∈ entries, entry.1 ≠ name)
    (value : α) : (insert name value entries).Perm ((name, value) :: entries) := by
  induction entries with
  | nil => exact .refl _
  | cons first rest ih =>
    obtain ⟨hfirst, hrest⟩ := List.forall_mem_cons.mp h
    rw [insert]
    split
    · exact .refl _
    · rw [if_neg (Ne.symm hfirst)]
      exact ((ih hrest).cons first).trans (.swap _ _ rest)

/-- Assignments to names that are new and differ from one another add their entries. -/
theorem foldl_insert_perm {entries : List (String × α)} (h : (entries.map Prod.fst).Nodup)
    (start : List (String × α))
    (hstart : ∀ entry ∈ start, entry.1 ∉ entries.map Prod.fst) :
    (entries.foldl (fun built entry => insert entry.1 entry.2 built) start).Perm
      (entries ++ start) := by
  induction entries generalizing start with
  | nil => exact .refl _
  | cons first rest ih =>
    obtain ⟨hfirst, hrest⟩ := List.nodup_cons.mp h
    have hnew : ∀ entry ∈ start, entry.1 ≠ first.1 := fun entry hentry heq =>
      hstart entry hentry (heq ▸ List.mem_cons_self)
    have hbelow : ∀ entry ∈ insert first.1 first.2 start, entry.1 ∉ rest.map Prod.fst := by
      intro entry hentry
      rcases mem_of_mem_insert hentry with rfl | hentry
      · exact hfirst
      · exact fun hmem => hstart entry hentry (List.mem_cons_of_mem _ hmem)
    rw [List.foldl_cons]
    exact (ih hrest _ hbelow).trans (((insert_perm hnew first.2).append_left rest).trans
      List.perm_middle)

/-- The names of an ordered map differ from one another. -/
theorem Ascending.nodup {entries : NameMap α} (h : entries.Ascending) :
    (entries.map Prod.fst).Nodup := by
  refine List.pairwise_map.mpr (h.imp ?_)
  intro a b hlt heq
  exact String.lt_irrefl b.1 (heq ▸ hlt)

/-- Ordered maps with the same entries are one map. -/
theorem Ascending.eq_of_perm {entries others : NameMap α} (h : entries.Ascending)
    (hothers : others.Ascending) (hperm : entries.Perm others) : entries = others := by
  refine hperm.eq_of_pairwise ?_ h hothers
  intro a b _ _ hab hba
  exact absurd (String.lt_trans hab hba) (String.lt_irrefl _)

/-- An ordered map can be listed in one order only just if it has one entry at most. -/
theorem Ascending.forall_perm_iff {entries : NameMap α} (h : entries.Ascending) :
    (∀ listed, listed.Perm entries → listed = entries) ↔ entries.length ≤ 1 := by
  match entries with
  | [] => simp
  | [_] => simp
  | first :: second :: rest =>
    have hlt : first.1 < second.1 := (List.pairwise_cons.mp h).1 second (.head _)
    have hswap : ¬∀ listed : NameMap α, listed.Perm (first :: second :: rest) →
        listed = first :: second :: rest := by
      intro hall
      have hsame := hall (second :: first :: rest) (.swap first second rest)
      rw [(List.cons.inj hsame).1] at hlt
      exact String.lt_irrefl _ hlt
    simpa using hswap

/-- Assignments to names that differ from one another build the map of their entries. -/
theorem ofList_perm {entries : List (String × α)} (h : (entries.map Prod.fst).Nodup) :
    (ofList entries).Perm entries := by
  have hbuilt := foldl_insert_perm h [] nofun
  rwa [List.append_nil] at hbuilt

/-- In whatever order the entries of an ordered map are assigned, they build the map. -/
theorem ofList_eq_of_perm {entries map : NameMap α} (h : entries.Perm map)
    (hmap : map.Ascending) : ofList entries = map := by
  have hnodup : (entries.map Prod.fst).Nodup := (h.map Prod.fst).nodup_iff.mpr hmap.nodup
  exact (ascending_ofList entries).eq_of_perm hmap ((ofList_perm hnodup).trans h)

/-- Assignments to names that differ from one another build one map in any order. -/
theorem ofList_congr {entries others : List (String × α)} (h : entries.Perm others)
    (hnodup : (entries.map Prod.fst).Nodup) : ofList entries = ofList others := by
  have hothers : (others.map Prod.fst).Nodup := (h.map Prod.fst).nodup_iff.mp hnodup
  exact ofList_eq_of_perm (h.trans (ofList_perm hothers).symm) (ascending_ofList others)

/-- The value of a name is that of the first entry, if the entry has the name. -/
theorem get?_cons (entry : String × α) (rest : NameMap α) (name : String) :
    get? (entry :: rest) name = if name = entry.1 then some entry.2 else get? rest name := by
  unfold get?
  rw [List.lookup_cons]
  by_cases h : name = entry.1
  · simp [h]
  · simp only [h, if_false, beq_eq_false_iff_ne.mpr h]

/-- In an ordered map each entry is the one that its name finds. -/
theorem get?_eq_some_iff {entries : NameMap α} (h : entries.Ascending) {name : String}
    {value : α} : get? entries name = some value ↔ (name, value) ∈ entries := by
  induction entries with
  | nil => simp [get?]
  | cons entry rest ih =>
    obtain ⟨other, old⟩ := entry
    obtain ⟨hfirst, hrest⟩ := List.pairwise_cons.mp h
    rw [get?_cons, List.mem_cons]
    by_cases heq : name = other
    · subst heq
      -- an entry of the same name further on would stand below itself
      have hlater : (name, value) ∉ rest := fun hmem => String.lt_irrefl name (hfirst _ hmem)
      simp [hlater, eq_comm]
    · simp [heq, ih hrest]

/-- Ordered maps in which each name has the same value are one map. -/
theorem Ascending.ext {entries others : NameMap α} (h : entries.Ascending)
    (hothers : others.Ascending) (hget : ∀ name, get? entries name = get? others name) :
    entries = others := by
  have hdistinct {map : NameMap α} (hmap : map.Ascending) : map.Nodup := by
    refine List.Pairwise.imp ?_ hmap
    intro a b hlt heq
    exact String.lt_irrefl b.1 (heq ▸ hlt)
  apply h.eq_of_perm hothers
  rw [List.perm_ext_iff_of_nodup (hdistinct h) (hdistinct hothers)]
  intro entry
  rw [← get?_eq_some_iff h, ← get?_eq_some_iff hothers, hget]

/-- The value of a name after an insertion. -/
theorem get?_insert (entries : NameMap α) (name : String) (value : α) (other : String) :
    get? (insert name value entries) other =
      if other = name then some value else get? entries other := by
  induction entries with
  | nil => simp [insert, get?_cons]
  | cons first rest ih =>
    rw [insert]
    split
    · simp [get?_cons]
    · split
      next heq => simp only [get?_cons]; split <;> simp_all
      next hne =>
        simp only [get?_cons, ih]
        split <;> split <;> simp_all

end NameMap

end PluginSchema
