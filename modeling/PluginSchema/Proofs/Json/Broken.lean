import PluginSchema.Json.Document
import PluginSchema.Proofs.Json.Leniency

/-!
# Scans that break off

Where a text stops being JSON, its scan leaves a cut that no reader gets past. So what is scanned
from a text is whole only if the scan comes to an end.
-/

namespace PluginSchema.Json

/-- A scan that does not come to an end leaves something that cannot be passed over. -/
def Breaks {α : Type} (skip : α → Reading Unit) (scan : List Char → α × Option (List Char)) :
    Prop :=
  ∀ {text : List Char} {value : α}, scan text = (value, none) → skip value ≠ .ok ()

/-- Nothing gets past a cut. -/
theorem Node.skip_cut (gap : Cut) : (cut gap).skip ≠ .ok () := by simp [skip, Reading.broken]

/-- Nothing gets past the place where an array breaks off. -/
theorem Items.skip_stop (comma : Bool) (fault : Fault) : (stop comma fault).skip ≠ .ok () := by
  simp [skip, Reading.broken]

/-- Nothing gets past the place where an object breaks off. -/
theorem Members.skip_stop (comma : Bool) (strict loose : Fault) :
    (stop comma strict loose).skip ≠ .ok () := by
  simp [skip, Reading.broken]

/-- Items are passed over one after the other. -/
theorem Items.skip_item_iff {node : Node} {rest : Items} :
    (item node rest).skip = .ok () ↔ node.skip = .ok () ∧ rest.skip = .ok () := by
  rw [skip, Reading.bind_eq_ok_iff]
  constructor
  · rintro ⟨⟨⟩, hnode, hrest⟩
    exact ⟨hnode, hrest⟩
  · rintro ⟨hnode, hrest⟩
    exact ⟨(), hnode, hrest⟩

/-- Members are passed over one after the other. -/
theorem Members.skip_member_iff {key : Option String} {node : Node} {rest : Members} :
    (member key node rest).skip = .ok () ↔ node.skip = .ok () ∧ rest.skip = .ok () := by
  rw [skip, Reading.bind_eq_ok_iff]
  constructor
  · rintro ⟨⟨⟩, hnode, hrest⟩
    exact ⟨hnode, hrest⟩
  · rintro ⟨hnode, hrest⟩
    exact ⟨(), hnode, hrest⟩

namespace Node

/-- A word that does not match leaves a cut. -/
theorem scanWord_breaks (fault : Fault → Fault → Cut) (node : Node) (word : List Char) :
    Breaks skip (scanWord fault node word) := by
  intro text value h
  induction word generalizing text with
  | nil => cases h
  | cons w word ih =>
    cases text with
    | nil =>
      cases h
      exact skip_cut _
    | cons c text =>
      rw [scanWord] at h
      split at h
      · exact ih h
      · cases h
        exact skip_cut _

/-- Where a scan in so many steps does not come to an end, nothing gets past what it leaves. -/
structure Broken (fuel : Nat) : Prop where
  value : Breaks skip (scan fuel)
  items : Breaks Items.skip (scanItems fuel)
  item : Breaks Items.skip (scanItem fuel)
  moreItems : Breaks Items.skip (scanMoreItems fuel)
  members : Breaks Members.skip (scanMembers fuel)
  member : ∀ comma, Breaks Members.skip (scanMember fuel comma)
  moreMembers : Breaks Members.skip (scanMoreMembers fuel)

variable {fuel : Nat}

/-- Items behind a bracket. -/
theorem scanItems_breaks (h : Broken fuel) : Breaks Items.skip (scanItems (fuel + 1)) := by
  intro text items hscan
  rw [scanItems] at hscan
  split at hscan
  case h_1 =>
    cases hscan
    exact Items.skip_stop _ _
  case h_2 => cases hscan
  case h_3 => exact h.item hscan

/-- An item. -/
theorem scanItem_breaks (h : Broken fuel) : Breaks Items.skip (scanItem (fuel + 1)) := by
  intro text items hscan
  rw [scanItem] at hscan
  split at hscan
  case h_1 hvalue =>
    cases hscan
    exact fun hskip => h.value hvalue (Items.skip_item_iff.mp hskip).1
  case h_2 tail _ =>
    cases hmore : scanMoreItems fuel tail with
    | mk others behind =>
      simp only [hmore] at hscan
      cases hscan
      exact fun hskip => h.moreItems hmore (Items.skip_item_iff.mp hskip).2

/-- Items behind another one. -/
theorem scanMoreItems_breaks (h : Broken fuel) : Breaks Items.skip (scanMoreItems (fuel + 1)) := by
  intro text items hscan
  rw [scanMoreItems] at hscan
  split at hscan
  case h_2 => cases hscan
  case h_3 =>
    split at hscan
    case h_3 => exact h.item hscan
    all_goals
      cases hscan
      exact Items.skip_stop _ _
  all_goals
    cases hscan
    exact Items.skip_stop _ _

/-- Members behind a brace. -/
theorem scanMembers_breaks (h : Broken fuel) : Breaks Members.skip (scanMembers (fuel + 1)) := by
  intro text members hscan
  rw [scanMembers] at hscan
  split at hscan
  case h_2 => cases hscan
  case h_3 => exact h.member false hscan
  all_goals
    cases hscan
    exact Members.skip_stop _ _ _

/-- A member behind the quote that opens its key. -/
theorem scanMember_breaks (h : Broken fuel) (comma : Bool) :
    Breaks Members.skip (scanMember (fuel + 1) comma) := by
  intro text members hscan
  rw [scanMember] at hscan
  split at hscan
  case h_1 =>
    cases hscan
    exact Members.skip_stop _ _ _
  case h_2 =>
    split at hscan
    case h_1 =>
      cases hscan
      exact fun hskip => skip_cut _ (Members.skip_member_iff.mp hskip).1
    case h_2 tail _ =>
      split at hscan
      case h_1 hvalue =>
        cases hscan
        exact fun hskip => h.value hvalue (Members.skip_member_iff.mp hskip).1
      case h_2 behind _ =>
        cases hmore : scanMoreMembers fuel behind with
        | mk others behind =>
          simp only [hmore] at hscan
          cases hscan
          exact fun hskip => h.moreMembers hmore (Members.skip_member_iff.mp hskip).2
    case h_3 =>
      cases hscan
      exact fun hskip => skip_cut _ (Members.skip_member_iff.mp hskip).1

/-- Members behind another one. -/
theorem scanMoreMembers_breaks (h : Broken fuel) :
    Breaks Members.skip (scanMoreMembers (fuel + 1)) := by
  intro text members hscan
  rw [scanMoreMembers] at hscan
  split at hscan
  case h_2 => cases hscan
  case h_3 =>
    split at hscan
    case h_2 => exact h.member true hscan
    all_goals
      cases hscan
      exact Members.skip_stop _ _ _
  all_goals
    cases hscan
    exact Members.skip_stop _ _ _

/-- A value. -/
theorem scan_breaks (h : Broken fuel) : Breaks skip (scan (fuel + 1)) := by
  intro text node hscan
  rw [scan] at hscan
  split at hscan
  case h_1 =>
    cases hscan
    exact skip_cut _
  case h_2 =>
    split at hscan
    case h_1 => cases hscan
    case h_2 =>
      cases hscan
      exact skip_cut _
  case h_3 tail _ =>
    cases hitems : scanItems fuel tail with
    | mk items behind =>
      simp only [hitems] at hscan
      cases hscan
      exact h.items hitems
  case h_4 tail _ =>
    cases hmembers : scanMembers fuel tail with
    | mk members behind =>
      simp only [hmembers] at hscan
      cases hscan
      exact h.members hmembers
  case h_5 => exact scanWord_breaks _ _ _ hscan
  case h_6 => exact scanWord_breaks _ _ _ hscan
  case h_7 => exact scanWord_breaks _ _ _ hscan
  case h_8 =>
    split at hscan
    case isTrue =>
      split at hscan
      case h_1 => cases hscan
      case h_2 =>
        cases hscan
        exact skip_cut _
    case isFalse =>
      cases hscan
      exact skip_cut _

/-- Nothing gets past what a scan leaves that does not come to an end. -/
theorem broken (fuel : Nat) : Broken fuel := by
  induction fuel with
  | zero =>
    constructor
    case value =>
      intro text node hscan
      cases hscan
      exact skip_cut _
    case items | item | moreItems =>
      intro text items hscan
      cases hscan
      exact Items.skip_stop _ _
    case member =>
      intro comma text members hscan
      cases hscan
      exact Members.skip_stop _ _ _
    case members | moreMembers =>
      intro text members hscan
      cases hscan
      exact Members.skip_stop _ _ _
  | succ fuel ih =>
    exact ⟨scan_breaks ih, scanItems_breaks ih, scanItem_breaks ih, scanMoreItems_breaks ih,
      scanMembers_breaks ih, scanMember_breaks ih, scanMoreMembers_breaks ih⟩

end Node

/-- A document that can be passed over is scanned to its end, and only blanks are left behind it,
if nothing trails it. -/
theorem Document.exists_scan_eq {text : List Char} {node : Node} (h : ofText text = ⟨node, false⟩)
    (hskip : node.skip = .ok ()) :
    ∃ rest, Node.scan (3 * text.length + 3) text = (node, some rest) ∧ skipBlanks rest = [] := by
  rw [ofText] at h
  split at h
  case h_1 root rest hscan =>
    obtain ⟨rfl, hrest⟩ := Document.mk.inj h
    exact ⟨rest, hscan, by simpa using hrest⟩
  case h_2 root hscan =>
    obtain ⟨rfl, -⟩ := Document.mk.inj h
    exact absurd hskip ((Node.broken _).value hscan)

end PluginSchema.Json
