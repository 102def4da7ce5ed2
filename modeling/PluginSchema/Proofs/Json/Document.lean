import PluginSchema.Json.Document
import PluginSchema.Json.Reader
import PluginSchema.Json.Value
import PluginSchema.Proofs.Json.Number
import PluginSchema.Proofs.Json.Quoted

/-!
# Documents of written values

The compact text of a value is scanned to the node that stands for the value, whatever follows
the text. A number alone needs an end, since more digits would go on with it; everything else
closes itself.
-/

namespace PluginSchema.Json

namespace Value

mutual

/-- The node that a document has for a written value. -/
def node : Value → Node
  | bool value => .bool value
  | int n => .num (.int n)
  | str text => .str (some text)
  | arr items => .arr (itemNodes items)
  | obj members => .obj (memberNodes members)

/-- The nodes of items. -/
def itemNodes : List Value → Items
  | [] => .close
  | item :: rest => .item item.node (itemNodes rest)

/-- The nodes of members. -/
def memberNodes : List (String × Value) → Members
  | [] => .close
  | (key, value) :: rest => .member (some key) value.node (memberNodes rest)

end

mutual

/-- Each number in a value is a natural number of 64 bits. -/
def Fits : Value → Prop
  | bool _ | str _ => True
  | int n => 0 ≤ n ∧ n < UInt64.size
  | arr items => ItemsFit items
  | obj members => MembersFit members

/-- Each number in some items is a natural number of 64 bits. -/
def ItemsFit : List Value → Prop
  | [] => True
  | item :: rest => item.Fits ∧ ItemsFit rest

/-- Each number in some members is a natural number of 64 bits. -/
def MembersFit : List (String × Value) → Prop
  | [] => True
  | (_, value) :: rest => value.Fits ∧ MembersFit rest

end

/-- What follows a value does not go on with it. -/
def Ends (rest : List Char) : Value → Prop
  | int _ => Number.Ends rest
  | _ => True

/-- Any value ends before a character that no number has. -/
theorem ends_cons (value : Value) {c : Char} (rest : List Char)
    (h : c.isDigit = false ∧ c ≠ '.' ∧ c ≠ 'e' ∧ c ≠ 'E') : value.Ends (c :: rest) := by
  cases value with
  | int n =>
    intro c' hc'
    obtain rfl : c = c' := Option.some.inj hc'
    exact h
  | _ => trivial

/-- Any value ends with its document. -/
theorem ends_nil (value : Value) : value.Ends [] := by
  cases value with
  | int n => exact fun _ hc => by cases hc
  | _ => trivial

/-- Any value ends before the items that follow it in an array. -/
theorem ends_renderItems (value : Value) (items : List Value) (rest : List Char) :
    value.Ends (renderItems items ++ ']' :: rest) := by
  cases items <;> exact value.ends_cons _ (by decide)

/-- Any value ends before the members that follow it in an object. -/
theorem ends_renderMembers (value : Value) (members : List (String × Value)) (rest : List Char) :
    value.Ends (renderMembers members ++ '}' :: rest) := by
  cases members <;> exact value.ends_cons _ (by decide)

end Value

theorem skipBlanks_cons {c : Char} (h : isBlank c = false) (text : List Char) :
    skipBlanks (c :: text) = c :: text := by
  simp [skipBlanks, h]

/-- A digit is none of the other characters that a value can begin with. -/
theorem isBlank_of_isDigit {c : Char} (h : c.isDigit = true) : isBlank c = false := by
  simp only [isBlank, Bool.or_eq_false_iff, beq_eq_false_iff_ne]
  refine ⟨⟨⟨?_, ?_⟩, ?_⟩, ?_⟩ <;> rintro rfl <;> cases h

namespace Value

/-- A written value begins with a character that is no blank and does not close an array. -/
theorem exists_render_eq_cons (value : Value) (h : value.Fits) :
    ∃ c text, value.render = c :: text ∧ isBlank c = false ∧ c ≠ ']' := by
  match value, h with
  | bool true, _ => exact ⟨_, _, rfl, rfl, by decide⟩
  | bool false, _ => exact ⟨_, _, rfl, rfl, by decide⟩
  | str text, _ => exact ⟨_, _, rfl, rfl, by decide⟩
  | arr [], _ => exact ⟨_, _, rfl, rfl, by decide⟩
  | arr (_ :: _), _ => exact ⟨_, _, rfl, rfl, by decide⟩
  | obj [], _ => exact ⟨_, _, rfl, rfl, by decide⟩
  | obj (_ :: _), _ => exact ⟨_, _, rfl, rfl, by decide⟩
  | int (.ofNat n), _ =>
    obtain ⟨c, digits, hdigits, hc⟩ := Number.exists_toDigits_eq_cons n
    refine ⟨c, digits, hdigits, isBlank_of_isDigit hc, ?_⟩
    rintro rfl
    cases hc
  | int (.negSucc n), h => simp [Fits] at h

end Value

namespace Node

open Value (itemNodes memberNodes)

/-- A written number is scanned to its node, where it ends. -/
theorem scan_renderInt {n : Int} (h : 0 ≤ n ∧ n < UInt64.size) {rest : List Char}
    (hrest : Number.Ends rest) (fuel : Nat) :
    scan (fuel + 1) (Value.renderInt n ++ rest) = (.num (.int n), some rest) := by
  obtain ⟨n, rfl⟩ := Int.eq_ofNat_of_zero_le h.1
  have hn : n < UInt64.size := by omega
  have hscan := Number.scan_toDigits hn hrest
  obtain ⟨c, digits, hdigits, hc⟩ := Number.exists_toDigits_eq_cons n
  change scan (fuel + 1) (Nat.toDigits 10 n ++ rest) = _
  rw [hdigits, List.cons_append] at hscan ⊢
  rw [scan, skipBlanks_cons (isBlank_of_isDigit hc)]
  split
  case h_8 c' text _ _ _ _ _ _ htext =>
    obtain ⟨rfl, rfl⟩ := List.cons.inj htext
    simp only [hc, or_true, if_true, hscan]
  -- no digit begins anything else
  all_goals
    rename_i hother
    cases hother <;> cases hc

/-- An item is scanned before what follows it. -/
theorem scanItem_of_scan {fuel : Nat} {text rest : List Char} {node : Node}
    {others : Items × Option (List Char)} (hitem : scan fuel text = (node, some rest))
    (hothers : scanMoreItems fuel rest = others) :
    scanItem (fuel + 1) text = (.item node others.1, others.2) := by
  rw [scanItem, hitem]
  simp only [hothers]

/-- What follows an opening bracket is an item, unless it closes the array. -/
theorem scanItems_eq_scanItem {c : Char} (hblank : isBlank c = false) (hclose : c ≠ ']')
    (fuel : Nat) (text : List Char) :
    scanItems (fuel + 1) (c :: text) = scanItem fuel (c :: text) := by
  rw [scanItems, skipBlanks_cons hblank]
  split
  case h_1 hnil => cases hnil
  case h_2 hother => exact absurd (List.cons.inj hother).1 hclose
  case h_3 => rfl

/-- What follows a comma behind an item is an item, unless it closes the array. -/
theorem scanMoreItems_eq_scanItem {c : Char} (hblank : isBlank c = false) (hclose : c ≠ ']')
    (fuel : Nat) (text : List Char) :
    scanMoreItems (fuel + 1) (',' :: c :: text) = scanItem fuel (c :: text) := by
  rw [scanMoreItems, skipBlanks_cons rfl]
  simp only [skipBlanks_cons hblank]
  split
  case h_1 hnil => cases hnil
  case h_2 hother => exact absurd (List.cons.inj hother).1 hclose
  case h_3 => rfl

/-- A written key and the value behind it are scanned before what follows them. -/
theorem scanMember_of_scan {fuel : Nat} (comma : Bool) (key : String) {text rest : List Char}
    {node : Node} {others : Members × Option (List Char)}
    (hvalue : scan fuel text = (node, some rest))
    (hothers : scanMoreMembers fuel rest = others) :
    scanMember (fuel + 1) comma (key.toList.flatMap Quoted.escape ++ '"' :: ':' :: text) =
      (.member (some key) node others.1, others.2) := by
  have hcolon : skipBlanks (':' :: text) = ':' :: text := skipBlanks_cons rfl _
  rw [scanMember, Quoted.scan_flatMap_escape]
  simp only [hcolon, hvalue, hothers]

/-- What follows an opening brace and a quote is a member. -/
theorem scanMembers_quote (fuel : Nat) (text : List Char) :
    scanMembers (fuel + 1) ('"' :: text) = scanMember fuel false text := by
  rw [scanMembers, skipBlanks_cons rfl]
  rfl

/-- What follows a comma and a quote behind a member is a member. -/
theorem scanMoreMembers_quote (fuel : Nat) (text : List Char) :
    scanMoreMembers (fuel + 1) (',' :: '"' :: text) = scanMember fuel true text := by
  rw [scanMoreMembers, skipBlanks_cons rfl]
  rfl

mutual

/-- A written value is scanned to its node, where it ends. -/
theorem scan_render : (value : Value) → value.Fits → ∀ (fuel : Nat) (rest : List Char),
    value.Ends rest → 3 * value.render.length ≤ fuel →
    scan fuel (value.render ++ rest) = (value.node, some rest)
  | .bool true, _, fuel + 1, rest, _, _ => rfl
  | .bool false, _, fuel + 1, rest, _, _ => rfl
  | .int n, hfits, fuel, rest, hends, hfuel => by
    obtain ⟨c, text, hrender, -⟩ := Value.exists_render_eq_cons (.int n) hfits
    obtain ⟨fuel, rfl⟩ : ∃ less, fuel = less + 1 := by
      rw [hrender, List.length_cons] at hfuel
      exact ⟨fuel - 1, by omega⟩
    exact scan_renderInt hfits hends fuel
  | .str text, _, fuel + 1, rest, _, _ => by
    rw [Value.render, Quoted.encode, List.cons_append, List.append_assoc, scan,
      skipBlanks_cons rfl]
    simp only [List.singleton_append, Quoted.scan_flatMap_escape, Value.node]
  | .arr [], _, fuel + 2, rest, _, _ => rfl
  | .arr (first :: items), ⟨hfirst, hitems⟩, fuel + 3, rest, _, hfuel => by
    simp only [Value.render, List.length_cons, List.length_append, List.length_nil] at hfuel
    have hothers := scanMoreItems_renderItems items hitems fuel rest (by omega)
    have hitem := scanItem_of_scan (scan_render first hfirst fuel _ (first.ends_renderItems _ _)
      (by omega)) hothers
    obtain ⟨c, text, hrender, hblank, hclose⟩ := first.exists_render_eq_cons hfirst
    rw [hrender, List.cons_append] at hitem
    rw [Value.render, hrender, List.cons_append, scan, skipBlanks_cons rfl]
    simp only [List.cons_append, List.append_assoc, List.nil_append,
      scanItems_eq_scanItem hblank hclose, hitem, Value.node, itemNodes]
  | .obj [], _, fuel + 2, rest, _, _ => rfl
  | .obj ((key, first) :: members), ⟨hfirst, hmembers⟩, fuel + 3, rest, _, hfuel => by
    simp only [Value.render, List.length_cons, List.length_append, List.length_nil] at hfuel
    have hothers := scanMoreMembers_renderMembers members hmembers fuel rest (by omega)
    have hmember := scanMember_of_scan false key (scan_render first hfirst fuel _
      (first.ends_renderMembers _ _) (by omega)) hothers
    rw [Value.render, Quoted.encode, List.cons_append, scan, skipBlanks_cons rfl]
    simp only [List.cons_append, List.append_assoc, List.nil_append, scanMembers_quote, hmember,
      Value.node, memberNodes]

/-- Written items that follow another one are scanned to their nodes. -/
theorem scanMoreItems_renderItems : (items : List Value) → Value.ItemsFit items →
    ∀ (fuel : Nat) (rest : List Char), 3 * (Value.renderItems items).length + 3 ≤ fuel →
    scanMoreItems fuel (Value.renderItems items ++ ']' :: rest) = (itemNodes items, some rest)
  | [], _, fuel + 1, rest, _ => rfl
  | item :: items, ⟨hitem, hitems⟩, fuel + 2, rest, hfuel => by
    rw [Value.renderItems, List.length_cons, List.length_append] at hfuel
    have hothers := scanMoreItems_renderItems items hitems fuel rest (by omega)
    have hnext := scanItem_of_scan (scan_render item hitem fuel _ (item.ends_renderItems _ _)
      (by omega)) hothers
    obtain ⟨c, text, hrender, hblank, hclose⟩ := item.exists_render_eq_cons hitem
    rw [hrender, List.cons_append] at hnext
    rw [Value.renderItems, List.cons_append, List.append_assoc, hrender, List.cons_append,
      scanMoreItems_eq_scanItem hblank hclose, hnext, itemNodes]

/-- Written members that follow another one are scanned to their nodes. -/
theorem scanMoreMembers_renderMembers : (members : List (String × Value)) →
    Value.MembersFit members → ∀ (fuel : Nat) (rest : List Char),
    3 * (Value.renderMembers members).length + 3 ≤ fuel →
    scanMoreMembers fuel (Value.renderMembers members ++ '}' :: rest) =
      (memberNodes members, some rest)
  | [], _, fuel + 1, rest, _ => rfl
  | (key, value) :: members, ⟨hvalue, hmembers⟩, fuel + 2, rest, hfuel => by
    simp only [Value.renderMembers, List.length_cons, List.length_append] at hfuel
    have hothers := scanMoreMembers_renderMembers members hmembers fuel rest (by omega)
    have hmember := scanMember_of_scan true key (scan_render value hvalue fuel _
      (value.ends_renderMembers _ _) (by omega)) hothers
    simp only [Value.renderMembers, Quoted.encode, List.cons_append, List.append_assoc,
      List.nil_append]
    rw [scanMoreMembers_quote, hmember, memberNodes]

end

end Node

/-- The document of a written value has its node, and nothing behind it. -/
theorem Document.ofText_render {value : Value} (h : value.Fits) :
    Document.ofText value.render = ⟨value.node, false⟩ := by
  have hscan := Node.scan_render value h (3 * value.render.length + 3) [] value.ends_nil (by omega)
  rw [List.append_nil] at hscan
  rw [ofText, hscan]
  rfl

/-- The same for the value's text. -/
theorem Document.ofText_text {value : Value} (h : value.Fits) :
    Document.ofText value.text.toList = ⟨value.node, false⟩ := by
  rw [Value.text, String.toList_ofList, ofText_render h]

/-- A document with nothing behind its value is read as the value. -/
theorem Document.read_eq {α : Type} (node : Node) (read : Reader α) :
    (⟨node, false⟩ : Document).read read = read maxDepth node := by
  change (read maxDepth node >>= fun value => Except.ok value) = _
  cases read maxDepth node <;> rfl

/-- A reader is given the node of a written value. -/
theorem readText_text {α : Type} (read : Reader α) {value : Value} (h : value.Fits) :
    readText read value.text = read maxDepth value.node := by
  rw [readText, Document.ofText_text h, Document.read_eq]

end PluginSchema.Json
