import PluginSchema.Log.Filter

/-!
# Cuts in texts of one-byte characters

The parts of a directive are cut from its text at bytes, and a place lies within a character only
where a character has several of them. So no cut is a bad one in a text of one-byte characters:
such a text writes a filter, or it is malformed.
-/

namespace PluginSchema

namespace Text

/-- All characters of a text have one byte. -/
def OneByte (text : List Char) : Prop := ∀ c ∈ text, c.utf8Size = 1

variable {text : List Char}

/-- A text of one-byte characters can be split behind any number of bytes. -/
theorem OneByte.exists_splitAtByte (h : OneByte text) (place count : Nat) :
    ∃ before after, splitAtByte place count text = .ok (before, after) ∧ OneByte after := by
  induction text generalizing place count with
  | nil =>
    cases count with
    | zero => exact ⟨[], [], rfl, h⟩
    | succ count => exact ⟨[], [], rfl, h⟩
  | cons c rest ih =>
    obtain ⟨hc, hrest⟩ := List.forall_mem_cons.mp h
    cases count with
    | zero => exact ⟨[], c :: rest, rfl, h⟩
    | succ count =>
      obtain ⟨before, after, hsplit, hafter⟩ :=
        ih hrest (place + c.utf8Size) (count + 1 - c.utf8Size)
      refine ⟨c :: before, after, ?_, hafter⟩
      rw [splitAtByte, if_pos (by omega), hsplit]
      rfl

/-- It has a part from any place on. -/
theorem OneByte.exists_partFrom (h : OneByte text) (start : Nat) :
    ∃ after, partFrom text start = .ok after ∧ OneByte after := by
  obtain ⟨before, after, hsplit, hafter⟩ := h.exists_splitAtByte 0 start
  exact ⟨after, by rw [partFrom, hsplit], hafter⟩

/-- It has a part between any two places. -/
theorem OneByte.exists_part (h : OneByte text) (start stop : Nat) :
    ∃ between, part text start stop = .ok between := by
  obtain ⟨after, hfrom, hafter⟩ := h.exists_partFrom start
  obtain ⟨between, rest, hsplit, -⟩ := hafter.exists_splitAtByte start (stop - start)
  refine ⟨between, ?_⟩
  simp only [part, hfrom, bind, Except.bind, hsplit]

/-- What stands between separators stands in the text. -/
theorem mem_of_mem_splitOn {separator c : Char} {piece : List Char}
    (h : piece ∈ text.splitOn separator) (hc : c ∈ piece) : c ∈ text := by
  induction text generalizing piece with
  | nil =>
    obtain rfl := List.mem_singleton.mp h
    exact hc
  | cons first rest ih =>
    rw [List.splitOn_cons_eq_if_modifyHead] at h
    split at h
    · rcases List.mem_cons.mp h with rfl | hrest
      · cases hc
      · exact List.mem_cons_of_mem first (ih hrest hc)
    · obtain ⟨head, tail, hsplit⟩ :=
        List.exists_cons_of_ne_nil (List.splitOn_ne_nil separator rest)
      rw [hsplit, List.modifyHead_cons] at h
      rcases List.mem_cons.mp h with rfl | htail
      · -- the first piece goes on to the next separator
        rcases List.mem_cons.mp hc with rfl | hhead
        · exact .head rest
        · exact List.mem_cons_of_mem first (ih (hsplit ▸ .head tail) hhead)
      · exact List.mem_cons_of_mem first (ih (hsplit ▸ .tail head htail) hc)

end Text

namespace Log

variable {α β : Type}

/-- What is read meets no bad cut. -/
def Uncut (reading : Except Refusal α) : Prop := ∀ cut, reading ≠ .error (.badCut cut)

namespace Uncut

/-- A value meets none. -/
theorem ok (value : α) : Uncut (.ok value) := fun _ heq => by cases heq

/-- A malformed text is not cut. -/
theorem malformed : Uncut (.error .malformed : Except Refusal α) := fun _ heq => by cases heq

/-- A reading meets no bad cut if neither its first part does nor what follows. -/
theorem bind {reading : Except Refusal α} {next : α → Except Refusal β} (h : Uncut reading)
    (hnext : ∀ value, Uncut (next value)) : Uncut (reading >>= next) := by
  cases reading with
  | ok value => exact hnext value
  | error refusal => exact fun cut heq => h cut (congrArg Except.error (Except.error.inj heq))

/-- What is required of a text is not cut from it. -/
theorem require (value : Option α) : Uncut (Refusal.require value) := by
  cases value with
  | none => exact malformed
  | some value => exact ok value

variable {text : List Char}

/-- The part of a text from a place on. -/
theorem partFrom (h : Text.OneByte text) (start : Nat) :
    Uncut ((Text.partFrom text start).mapError Refusal.badCut) := by
  obtain ⟨after, hafter, -⟩ := h.exists_partFrom start
  rw [hafter]
  exact ok after

/-- The part of a text between two places. -/
theorem part (h : Text.OneByte text) (start stop : Nat) :
    Uncut (Refusal.part text start stop) := by
  obtain ⟨between, hpart⟩ := h.exists_part start stop
  rw [Refusal.part, hpart]
  exact ok between

/-- The limit of a directive. -/
theorem parseLimit (h : Text.OneByte text) (directive : Directive) (start : Nat) :
    Uncut (Directive.parseLimit text directive start) := by
  refine bind (partFrom h start) fun limit => ?_
  split
  · exact ok _
  · exact bind (require _) fun _ => ok _

/-- What stands behind a span. -/
theorem parseAfterSpan (h : Text.OneByte text) (directive : Directive) (place : Nat)
    (rest : List Char) : Uncut (Directive.parseAfterSpan text directive place rest) := by
  unfold Directive.parseAfterSpan
  split
  · exact ok _
  · exact parseLimit h _ _
  · exact malformed

/-- The query of a span. -/
theorem parseQuery (h : Text.OneByte text) (directive : Directive) (place : Nat)
    (rest : List Char) : Uncut (Directive.parseQuery text directive place rest) := by
  unfold Directive.parseQuery
  dsimp only
  split
  · exact malformed
  · refine bind (part h _ _) fun query => bind (require _) fun field => ?_
    split
    · exact parseAfterSpan h _ _ _
    · exact malformed

/-- The span of a directive. -/
theorem parseSpan (h : Text.OneByte text) (target : List Char) (place : Nat)
    (rest : List Char) : Uncut (Directive.parseSpan text target place rest) := by
  unfold Directive.parseSpan
  dsimp only
  split
  · exact malformed
  · refine bind (part h _ _) fun span => ?_
    split
    · exact parseAfterSpan h _ _ _
    · exact parseQuery h _ _ _

/-- A directive. -/
theorem parse (h : Text.OneByte text) : Uncut (Directive.parse text) := by
  unfold Directive.parse
  dsimp only
  split
  · exact malformed
  · exact parseSpan h _ _ _
  · split
    · exact malformed
    · split
      · split <;> exact ok _
      · refine bind (part h _ _) fun target => ?_
        split
        · exact parseSpan h _ _ _
        · exact parseLimit h _ _

/-- Texts that are read one after the other. -/
theorem mapM {read : List Char → Except Refusal β} {texts : List (List Char)}
    (h : ∀ text ∈ texts, Uncut (read text)) : Uncut (texts.mapM read) := by
  induction texts with
  | nil => exact ok []
  | cons text rest ih =>
    obtain ⟨htext, hrest⟩ := List.forall_mem_cons.mp h
    rw [List.mapM_cons]
    exact bind htext fun _ => bind (ih hrest) fun _ => ok _

end Uncut

/-- The text of a filter whose characters have one byte is read without a bad cut. -/
theorem Filter.uncut_parse {text : String} (h : Text.OneByte text.toList) :
    Uncut (parse text) := by
  refine .bind (.mapM fun piece hpiece => .parse fun c hc => ?_) fun _ => .ok _
  exact h c (Text.mem_of_mem_splitOn (List.mem_filter.mp hpiece).1 hc)

end Log

end PluginSchema
