import PluginSchema.Proofs.Json.Broken
import PluginSchema.Proofs.Json.Document

/-!
# What follows a value

A value that is scanned to its end is scanned alike whatever follows it, and with however many
steps beyond those that suffice. Only a number must have an end, since more digits would go on
with it. So a document can be put into another one.
-/

namespace PluginSchema.Json

/-- Scanning a longer text with another scanner gives the same value, and leaves what the text is
longer by. -/
def Extends {α : Type} (suffix : List Char) (scan other : List Char → α × Option (List Char)) :
    Prop :=
  ∀ {text : List Char} {value : α} {rest : List Char}, scan text = (value, some rest) →
    other (text ++ suffix) = (value, some (rest ++ suffix))

variable {suffix : List Char}

/-- Blanks before something are skipped whatever follows it. -/
theorem skipBlanks_append {text tail : List Char} {c : Char} (h : skipBlanks text = c :: tail)
    (suffix : List Char) : skipBlanks (text ++ suffix) = c :: (tail ++ suffix) := by
  rw [skipBlanks] at h ⊢
  rw [List.dropWhile_append, h]
  rfl

namespace Node

/-- A word is matched whatever follows it. -/
theorem scanWord_extends (fault : Fault → Fault → Cut) (node : Node) (word : List Char) :
    Extends suffix (scanWord fault node word) (scanWord fault node word) := by
  intro text value rest h
  induction word generalizing text with
  | nil =>
    cases h
    rfl
  | cons w word ih =>
    cases text with
    | nil => cases h
    | cons c text =>
      rw [scanWord] at h
      rw [List.cons_append, scanWord]
      split at h
      · exact (if_pos ‹_›).trans (ih h)
      · cases h

/-- All parts of a document are scanned with so many steps as with more, whatever follows. -/
structure Local (suffix : List Char) (fuel more : Nat) : Prop where
  value : Extends suffix (scan fuel) (scan more)
  items : Extends suffix (scanItems fuel) (scanItems more)
  item : Extends suffix (scanItem fuel) (scanItem more)
  moreItems : Extends suffix (scanMoreItems fuel) (scanMoreItems more)
  members : Extends suffix (scanMembers fuel) (scanMembers more)
  member : ∀ comma, Extends suffix (scanMember fuel comma) (scanMember more comma)
  moreMembers : Extends suffix (scanMoreMembers fuel) (scanMoreMembers more)

variable {fuel more : Nat}

/-- Items behind a bracket. -/
theorem scanItems_extends (h : Local suffix fuel more) :
    Extends suffix (scanItems (fuel + 1)) (scanItems (more + 1)) := by
  intro text items rest hscan
  rw [scanItems] at hscan ⊢
  cases hblanks : skipBlanks text with
  | nil =>
    rw [hblanks] at hscan
    cases hscan
  | cons c tail =>
    rw [hblanks] at hscan
    rw [skipBlanks_append hblanks]
    split at hscan
    case h_1 hnil => cases hnil
    case h_2 hclose =>
      cases hclose
      cases hscan
      rfl
    case h_3 hother =>
      split
      case h_1 hnil => cases hnil
      case h_2 hclose =>
        cases hclose
        exact absurd rfl (hother tail)
      case h_3 => exact h.item hscan

/-- An item. -/
theorem scanItem_extends (h : Local suffix fuel more) :
    Extends suffix (scanItem (fuel + 1)) (scanItem (more + 1)) := by
  intro text items rest hscan
  rw [scanItem] at hscan ⊢
  cases hvalue : scan fuel text with
  | mk node tail =>
    cases tail with
    | none =>
      rw [hvalue] at hscan
      cases hscan
    | some tail =>
      rw [hvalue] at hscan
      rw [h.value hvalue]
      cases hmore : scanMoreItems fuel tail with
      | mk others tail =>
        simp only [hmore] at hscan
        cases hscan
        simp only [h.moreItems hmore]

/-- Items behind another one. -/
theorem scanMoreItems_extends (h : Local suffix fuel more) :
    Extends suffix (scanMoreItems (fuel + 1)) (scanMoreItems (more + 1)) := by
  intro text items rest hscan
  rw [scanMoreItems] at hscan ⊢
  cases hblanks : skipBlanks text with
  | nil =>
    rw [hblanks] at hscan
    cases hscan
  | cons c tail =>
    rw [hblanks] at hscan
    rw [skipBlanks_append hblanks]
    split at hscan
    case h_1 hnil => cases hnil
    case h_2 hclose =>
      cases hclose
      cases hscan
      rfl
    case h_3 hcomma =>
      cases hcomma
      cases hmore : skipBlanks tail with
      | nil =>
        rw [hmore] at hscan
        cases hscan
      | cons d behind =>
        rw [hmore] at hscan
        simp only [skipBlanks_append hmore]
        split at hscan
        case h_1 hnil => cases hnil
        case h_2 => cases hscan
        case h_3 hother =>
          split
          case h_1 hnil => cases hnil
          case h_2 hclose =>
            cases hclose
            exact absurd rfl (hother behind)
          case h_3 => exact h.item hscan
    case h_4 => cases hscan

/-- Members behind a brace. -/
theorem scanMembers_extends (h : Local suffix fuel more) :
    Extends suffix (scanMembers (fuel + 1)) (scanMembers (more + 1)) := by
  intro text members rest hscan
  rw [scanMembers] at hscan ⊢
  cases hblanks : skipBlanks text with
  | nil =>
    rw [hblanks] at hscan
    cases hscan
  | cons c tail =>
    rw [hblanks] at hscan
    rw [skipBlanks_append hblanks]
    split at hscan
    case h_1 hnil => cases hnil
    case h_2 hclose =>
      cases hclose
      cases hscan
      rfl
    case h_3 hquote =>
      cases hquote
      exact h.member false hscan
    case h_4 => cases hscan

/-- A member behind the quote that opens its key. -/
theorem scanMember_extends (h : Local suffix fuel more) (comma : Bool) :
    Extends suffix (scanMember (fuel + 1) comma) (scanMember (more + 1) comma) := by
  intro text members rest hscan
  rw [scanMember] at hscan ⊢
  cases hkey : Quoted.scan text with
  | broken strict loose =>
    rw [hkey] at hscan
    cases hscan
  | done key tail =>
    simp only [hkey] at hscan
    simp only [Quoted.scan_append hkey]
    cases hblanks : skipBlanks tail with
    | nil =>
      rw [hblanks] at hscan
      cases hscan
    | cons c tail =>
      rw [hblanks] at hscan
      rw [skipBlanks_append hblanks]
      split at hscan
      case h_1 hnil => cases hnil
      case h_2 hcolon =>
        cases hcolon
        cases hvalue : scan fuel tail with
        | mk node behind =>
          cases behind with
          | none =>
            rw [hvalue] at hscan
            cases hscan
          | some behind =>
            rw [hvalue] at hscan
            simp only [h.value hvalue]
            cases hmore : scanMoreMembers fuel behind with
            | mk others behind =>
              simp only [hmore] at hscan
              cases hscan
              simp only [h.moreMembers hmore]
      case h_3 => cases hscan

/-- Members behind another one. -/
theorem scanMoreMembers_extends (h : Local suffix fuel more) :
    Extends suffix (scanMoreMembers (fuel + 1)) (scanMoreMembers (more + 1)) := by
  intro text members rest hscan
  rw [scanMoreMembers] at hscan ⊢
  cases hblanks : skipBlanks text with
  | nil =>
    rw [hblanks] at hscan
    cases hscan
  | cons c tail =>
    rw [hblanks] at hscan
    rw [skipBlanks_append hblanks]
    split at hscan
    case h_1 hnil => cases hnil
    case h_2 hclose =>
      cases hclose
      cases hscan
      rfl
    case h_3 hcomma =>
      cases hcomma
      cases hmore : skipBlanks tail with
      | nil =>
        rw [hmore] at hscan
        cases hscan
      | cons d behind =>
        rw [hmore] at hscan
        simp only [skipBlanks_append hmore]
        split at hscan
        case h_1 hnil => cases hnil
        case h_2 hquote =>
          cases hquote
          exact h.member true hscan
        case h_3 => cases hscan
    case h_4 => cases hscan

/-- A value. -/
theorem scan_extends (hsuffix : Number.Ends suffix) (h : Local suffix fuel more) :
    Extends suffix (scan (fuel + 1)) (scan (more + 1)) := by
  intro text node rest hscan
  rw [scan] at hscan ⊢
  cases hblanks : skipBlanks text with
  | nil =>
    rw [hblanks] at hscan
    cases hscan
  | cons c tail =>
    rw [hblanks] at hscan
    rw [skipBlanks_append hblanks]
    split at hscan
    case h_1 hnil => cases hnil
    -- a string
    case h_2 hquote =>
      cases hquote
      cases hstring : Quoted.scan tail with
      | broken strict loose =>
        rw [hstring] at hscan
        cases hscan
      | done value behind =>
        rw [hstring] at hscan
        cases hscan
        simp only [Quoted.scan_append hstring]
    -- an array
    case h_3 hbracket =>
      cases hbracket
      cases hitems : scanItems fuel tail with
      | mk items behind =>
        simp only [hitems] at hscan
        cases hscan
        simp only [h.items hitems]
    -- an object
    case h_4 hbrace =>
      cases hbrace
      cases hmembers : scanMembers fuel tail with
      | mk members behind =>
        simp only [hmembers] at hscan
        cases hscan
        simp only [h.members hmembers]
    -- a word
    case h_5 hword =>
      cases hword
      exact scanWord_extends _ _ _ hscan
    case h_6 hword =>
      cases hword
      exact scanWord_extends _ _ _ hscan
    case h_7 hword =>
      cases hword
      exact scanWord_extends _ _ _ hscan
    -- a number
    case h_8 hbegin =>
      obtain ⟨rfl, rfl⟩ := List.cons.inj hbegin
      split at hscan
      case isFalse => cases hscan
      case isTrue hbegins =>
        cases hnumber : Number.scan (c :: tail) with
        | broken strict loose =>
          rw [hnumber] at hscan
          cases hscan
        | done value behind =>
          rw [hnumber] at hscan
          cases hscan
          have happend := Number.scan_append hsuffix hnumber
          rw [List.cons_append] at happend
          simp [hbegins, happend]

/-- All parts of a document are scanned alike with more steps, whatever follows. -/
theorem local_of_le (hsuffix : Number.Ends suffix) {fuel more : Nat} (hle : fuel ≤ more) :
    Local suffix fuel more := by
  induction fuel generalizing more with
  | zero => exact ⟨nofun, nofun, nofun, nofun, nofun, fun _ => nofun, nofun⟩
  | succ fuel ih =>
    obtain ⟨more, rfl⟩ : ∃ smaller, more = smaller + 1 := ⟨more - 1, by omega⟩
    have h := ih (Nat.le_of_succ_le_succ hle)
    exact ⟨scan_extends hsuffix h, scanItems_extends h, scanItem_extends h,
      scanMoreItems_extends h, scanMembers_extends h, scanMember_extends h,
      scanMoreMembers_extends h⟩

/-- A member that is alone in its object is scanned with it. -/
theorem scan_single {fuel : Nat} {text rest behind : List Char} {node : Node} (name : String)
    (hvalue : scan (fuel + 1) text = (node, some rest)) (hrest : skipBlanks rest = '}' :: behind) :
    scan (fuel + 4) ('{' :: (Quoted.encode name ++ ':' :: text)) =
      (.obj (.ofList [(name, node)]), some behind) := by
  have hclose : scanMoreMembers (fuel + 1) rest = (.close, some behind) := by
    rw [scanMoreMembers, hrest]
    rfl
  rw [Quoted.encode, List.cons_append, List.append_assoc, List.singleton_append, scan,
    skipBlanks_cons rfl]
  simp only [scanMembers_quote, scanMember_of_scan false name hvalue hclose]
  rfl

end Node

/-- The text of an object whose only member has a name and a value with a text. -/
def asMember (name text : String) : String :=
  .ofList ('{' :: (Quoted.encode name ++ ':' :: (text.toList ++ ['}'])))

/-- A whole document can be made the only member of another one. -/
theorem Document.ofText_asMember {text : String} {node : Node}
    (h : ofText text.toList = ⟨node, false⟩) (hskip : node.skip = .ok ()) (name : String) :
    ofText (asMember name text).toList = ⟨.obj (.ofList [(name, node)]), false⟩ := by
  obtain ⟨rest, hscan, hrest⟩ := exists_scan_eq h hskip
  have hends : Number.Ends ['}'] := by
    rintro c ⟨⟩
    decide
  have hlength : text.toList.length + 3 ≤ (asMember name text).toList.length := by
    simp only [asMember, String.toList_ofList, List.length_cons, List.length_append]
    omega
  obtain ⟨fuel, hfuel⟩ : ∃ fuel, 3 * (asMember name text).toList.length + 3 = fuel + 4 :=
    ⟨3 * (asMember name text).toList.length - 1, by omega⟩
  have hle : 3 * text.toList.length + 3 ≤ fuel + 1 := by omega
  have hvalue := (Node.local_of_le hends hle).value hscan
  have hclose : skipBlanks (rest ++ ['}']) = '}' :: [] := by
    rw [skipBlanks, List.dropWhile_append]
    rw [skipBlanks] at hrest
    rw [hrest]
    rfl
  rw [ofText, hfuel, asMember, String.toList_ofList, Node.scan_single name hvalue hclose]
  rfl

end PluginSchema.Json
