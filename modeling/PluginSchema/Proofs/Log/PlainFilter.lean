import Mathlib.Data.List.TakeWhile
import PluginSchema.Log.Record

/-!
# Plain filters

A filter that is written as the name of a level, in any case of letters, limits all targets alike.
Such a text has nothing in it that separates directives or their parts, so it is read as one
directive for everything. What such a filter lets through depends on the level of a record or of a
span, and on nothing else: no directive selects a span, so an open span lets no other record pass.
-/

namespace PluginSchema

namespace Text

/-- What is a small letter in lower case is a letter. -/
theorem isAlpha_of_isLower_toLower {c : Char} (h : c.toLower.isLower = true) :
    c.isAlpha = true := by
  unfold Char.toLower at h
  refine Bool.or_eq_true_iff.mpr ?_
  split at h
  next hupper => exact .inl (decide_eq_true hupper)
  next => exact .inr h

/-- The codes of letters. -/
theorem toNat_of_isAlpha {c : Char} (h : c.isAlpha = true) :
    (65 ≤ c.toNat ∧ c.toNat ≤ 90) ∨ (97 ≤ c.toNat ∧ c.toNat ≤ 122) := by
  rcases Bool.or_eq_true_iff.mp h with hupper | hlower
  · have hrange : 'A'.val ≤ c.val ∧ c.val ≤ 'Z'.val := of_decide_eq_true hupper
    exact .inl ⟨UInt32.le_iff_toNat_le.mp hrange.1, UInt32.le_iff_toNat_le.mp hrange.2⟩
  · obtain ⟨hfirst, hlast⟩ := Bool.and_eq_true_iff.mp hlower
    exact .inr ⟨UInt32.le_iff_toNat_le.mp (of_decide_eq_true hfirst),
      UInt32.le_iff_toNat_le.mp (of_decide_eq_true hlast)⟩

/-- A letter is no space. -/
theorem isSpace_of_isAlpha {c : Char} (h : c.isAlpha = true) : isSpace c = false := by
  have hcode := toNat_of_isAlpha h
  simp only [isSpace, inRanges, spaceRanges, List.any_cons, List.any_nil, Bool.or_false,
    Bool.or_eq_false_iff, Bool.and_eq_false_iff, decide_eq_false_iff_not]
  omega

/-- A letter is one of those that words are written with. -/
theorem isAlphanumeric_of_isAlpha {c : Char} (h : c.isAlpha = true) : isAlphanumeric c = true := by
  have halphabetic : isAlphabetic c = true := by
    rw [isAlphabetic, inRanges, List.any_eq_true]
    rcases toNat_of_isAlpha h with hupper | hlower
    · exact ⟨(0x41, 0x5a), .head _, by simpa using hupper⟩
    · exact ⟨(0x61, 0x7a), .tail _ (.head _), by simpa using hlower⟩
  rw [isAlphanumeric, halphabetic, Bool.true_or]

/-- A text without spaces is left as it is when spaces around it are cut off. -/
theorem trim_eq_self {text : List Char} (h : ∀ c ∈ text, isSpace c = false) :
    trim text = text := by
  have hdrop {text : List Char} (h : ∀ c ∈ text, isSpace c = false) :
      text.dropWhile isSpace = text := by
    cases text with
    | nil => rfl
    | cons c rest => rw [List.dropWhile_cons, h c (.head _), if_neg Bool.false_ne_true]
  have hreverse : ∀ c ∈ text.reverse, isSpace c = false := fun c hc =>
    h c (List.mem_reverse.mp hc)
  rw [trim, hdrop h, hdrop hreverse, List.reverse_reverse]

end Text

namespace Log

/-- A text is the name of a limit, in any case of letters. -/
def Limit.Named (text : String) (limit : Limit) : Prop :=
  named.lookup (String.ofList (text.toList.map Char.toLower)) = some limit

namespace Limit.Named

variable {text : String} {limit : Limit}

/-- In lower case it is one of the names. -/
theorem mem_names (h : Named text limit) :
    String.ofList (text.toList.map Char.toLower) ∈ named.map Prod.fst := by
  obtain ⟨before, after, hsplit, -⟩ := List.lookup_eq_some_iff.mp h
  simp [hsplit]

/-- The name of a limit has letters only. -/
theorem isAlpha (h : Named text limit) : ∀ c ∈ text.toList, c.isAlpha = true := by
  intro c hc
  have hlower : (named.map Prod.fst).all (·.toList.all Char.isLower) = true := rfl
  have hword := List.all_eq_true.mp hlower _ h.mem_names
  refine Text.isAlpha_of_isLower_toLower (List.all_eq_true.mp hword c.toLower ?_)
  rw [String.toList_ofList]
  exact List.mem_map_of_mem hc

/-- The name of a limit begins with a letter. -/
theorem exists_toList_eq_cons (h : Named text limit) :
    ∃ c rest, text.toList = c :: rest ∧ c.isAlpha = true := by
  have hempty : "" ∉ named.map Prod.fst := by simp [named]
  cases htext : text.toList with
  | nil =>
    have hname := h.mem_names
    rw [htext] at hname
    exact absurd hname hempty
  | cons c rest => exact ⟨c, rest, rfl, h.isAlpha c (htext ▸ .head _)⟩

/-- No other character is in the name of a limit. -/
theorem not_mem (h : Named text limit) {c : Char} (hc : c.isAlpha = false) : c ∉ text.toList := by
  intro hmem
  rw [h.isAlpha c hmem] at hc
  cases hc

/-- The name of a limit is read as the limit. -/
theorem ofText?_eq (h : Named text limit) : ofText? text.toList = some limit := by
  obtain ⟨c, rest, htext, hc⟩ := h.exists_toList_eq_cons
  have hcode := Text.toNat_of_isAlpha hc
  have hdigit : c.isDigit = false := by
    simp only [Char.isDigit, UInt32.le_iff_toNat_le, Bool.and_eq_false_iff,
      decide_eq_false_iff_not, ge_iff_le]
    right
    change ¬ c.toNat ≤ 57
    omega
  have hplus : c ≠ '+' := by
    rintro rfl
    cases hc
  have hnumber : number? text.toList = none := by
    rw [htext, number?]
    · simp [hdigit]
    · exact fun _ heq => hplus (List.cons.inj heq).1
  rw [ofText?, hnumber]
  exact h

end Limit.Named

/-- The filter with one limit for everything. -/
def Filter.plain (limit : Limit) : Filter := ⟨[{ limit }]⟩

variable {text : String} {limit : Limit}

/-- The name of a limit writes the directive that limits everything. -/
theorem Directive.parse_of_named (h : limit.Named text) :
    parse text.toList = .ok { limit } := by
  have htrim : Text.trim text.toList = text.toList :=
    Text.trim_eq_self fun c hc => Text.isSpace_of_isAlpha (h.isAlpha c hc)
  have hname : text.toList.takeWhile (fun c => c ≠ '=' ∧ c ≠ '[') = text.toList := by
    rw [List.takeWhile_eq_self_iff]
    intro c hc
    have hequals : c ≠ '=' := fun heq => h.not_mem (c := '=') rfl (heq ▸ hc)
    have hbracket : c ≠ '[' := fun heq => h.not_mem (c := '[') rfl (heq ▸ hc)
    exact decide_eq_true ⟨hequals, hbracket⟩
  obtain ⟨c, rest, htext, hc⟩ := h.exists_toList_eq_cons
  have hbegin : canBegin c = true := by
    rw [canBegin, Text.isAlphanumeric_of_isAlpha hc, Bool.or_true]
  have hbracket : c ≠ '[' := fun heq => h.not_mem (c := '[') rfl (htext ▸ heq ▸ .head _)
  have hlimit := h.ofText?_eq
  rw [htext] at htrim hname hlimit ⊢
  rw [parse, htrim]
  split
  next heq => cases heq
  next heq => exact absurd (List.cons.inj heq).1 hbracket
  next heq =>
    obtain ⟨rfl, rfl⟩ := List.cons.inj heq
    rw [hbegin, hname]
    simp only [Bool.not_true, Bool.false_eq_true, if_false, List.drop_length, hlimit]
    rfl

/-- The name of a limit writes one directive. -/
theorem Filter.pieces_of_named (h : limit.Named text) : pieces text = [text.toList] := by
  obtain ⟨c, rest, htext, -⟩ := h.exists_toList_eq_cons
  rw [pieces, List.splitOn_eq_singleton (h.not_mem (c := ',') rfl), htext]
  rfl

/-- The name of a limit writes the filter with that limit. -/
theorem Filter.parse_of_named (h : limit.Named text) : parse text = .ok (plain limit) := by
  rw [parse, pieces_of_named h, List.mapM_cons, Directive.parse_of_named h]
  rfl

/-- The name of a limit as a default gives the filter with that limit. -/
theorem Filter.parseLossy_of_named (h : limit.Named text) :
    parseLossy text = .ok (plain limit) := by
  rw [parseLossy, pieces_of_named h, List.mapM_cons, directive?, Directive.parse_of_named h]
  rfl

namespace Filter

/-- Records of any target and with any fields are limited alike. -/
@[simp] theorem recordLimit_plain (target : String) (fields : List String) :
    (plain limit).recordLimit target fields = limit := rfl

/-- Nothing beyond the limit can pass. -/
@[simp] theorem ceiling_plain : (plain limit).ceiling = limit := rfl

/-- An open span lets nothing more pass. -/
@[simp] theorem limitWithin_plain (span : SpanOrigin) :
    (plain limit).limitWithin span = .off := rfl

/-- Spans are wanted as far as the limit admits their level. -/
@[simp] theorem wants_plain (span : SpanOrigin) :
    (plain limit).wants span = limit.admits span.level := rfl

end Filter

end Log

end PluginSchema
