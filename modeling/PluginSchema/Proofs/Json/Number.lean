import Mathlib.Data.List.TakeDrop
import PluginSchema.Json.Number

/-!
# Scanning written numbers

A natural number below 2⁶⁴ is written by its decimal digits. They have no leading zero and all fit
the significand of a scanned number, so the number is read back, if what follows does not go on
with it. Where a number ends, it does not matter what follows, however it is written.
-/

namespace PluginSchema.Json.Number

/-- A number ends where no digit, point or exponent follows. -/
def Ends (rest : List Char) : Prop :=
  ∀ c ∈ rest.head?, c.isDigit = false ∧ c ≠ '.' ∧ c ≠ 'e' ∧ c ≠ 'E'

/-- Digits that write a number below 2⁶⁴ are all taken into the significand. -/
theorem absorb_eq_of_lt {significand : Nat} {digits : List Char}
    (h : Nat.ofDigitChars 10 digits significand < UInt64.size) :
    absorb significand digits = (Nat.ofDigitChars 10 digits significand, []) := by
  induction digits generalizing significand with
  | nil => simp [absorb]
  | cons c digits ih =>
    have hnext : 10 * significand + (c.toNat - '0'.toNat) = significand * 10 + digit c := by
      rw [digit, Nat.mul_comm]
    rw [Nat.ofDigitChars_cons, hnext] at h ⊢
    -- the digits to come only make the number greater
    have hle : significand * 10 + digit c ≤
        Nat.ofDigitChars 10 digits (significand * 10 + digit c) := by
      rw [Nat.ofDigitChars_eq_ofDigitChars_zero]
      exact Nat.le_add_right_of_le (Nat.le_mul_of_pos_left _ (Nat.pow_pos (by decide)))
    simp only [absorb, if_pos (Nat.lt_of_le_of_lt hle h), ih h]

/-- A number is written by a digit, and maybe more. -/
theorem exists_toDigits_eq_cons (n : Nat) :
    ∃ c digits, Nat.toDigits 10 n = c :: digits ∧ c.isDigit = true := by
  obtain ⟨c, digits, hdigits⟩ := List.exists_cons_of_ne_nil (Nat.toDigits_ne_nil (n := n) (b := 10))
  exact ⟨c, digits, hdigits,
    Nat.isDigit_of_mem_toDigits (by decide) (by decide) (hdigits ▸ List.mem_cons_self)⟩

/-- The digits of a number begin with a zero only if it is zero. -/
theorem head?_toDigits_ne {n : Nat} (h : 0 < n) : (Nat.toDigits 10 n).head? ≠ some '0' := by
  induction n using Nat.base_induction 10 (by decide) with
  | single m hm =>
    rw [Nat.toDigits_of_lt_base hm]
    revert hm h
    revert m
    decide
  | digit n last hlast hn ih =>
    obtain ⟨c, digits, hdigits, -⟩ := exists_toDigits_eq_cons n
    rw [← Nat.toDigits_append_toDigits (by decide) hn hlast, hdigits, List.cons_append]
    rw [hdigits] at ih
    exact ih hn

/-- No number has a zero before its other digits. -/
theorem not_leadingZero_toDigits (n : Nat) :
    ¬((Nat.toDigits 10 n).head? = some '0' ∧ 1 < (Nat.toDigits 10 n).length) := by
  rintro ⟨hzero, hlength⟩
  rcases Nat.eq_zero_or_pos n with rfl | hpos
  · rw [Nat.toDigits_zero] at hlength
    exact absurd hlength (by decide)
  · exact head?_toDigits_ne hpos hzero

/-- The digits of a number below 2⁶⁴ are worth the number. -/
theorem ofParts_toDigits {n : Nat} (hn : n < UInt64.size) :
    ofParts { negative := false, whole := Nat.toDigits 10 n } = .int n := by
  have habsorb : absorb 0 (Nat.toDigits 10 n) = (n, []) := by
    rw [absorb_eq_of_lt] <;> rw [Nat.ofDigitChars_ten_toDigits]
    exact hn
  simp [ofParts, habsorb]

/-- Where a number ends, its digits are all that is taken for it. -/
theorem span_toDigits (n : Nat) {rest : List Char} (h : Ends rest) :
    (Nat.toDigits 10 n ++ rest).span Char.isDigit = (Nat.toDigits 10 n, rest) := by
  have hdigits : ∀ c ∈ Nat.toDigits 10 n, c.isDigit = true := fun c hc =>
    Nat.isDigit_of_mem_toDigits (by decide) (by decide) hc
  have hrest : rest.takeWhile Char.isDigit = [] ∧ rest.dropWhile Char.isDigit = rest := by
    cases rest with
    | nil => exact ⟨rfl, rfl⟩
    | cons c rest => simp [(h c rfl).1]
  rw [List.span_eq_takeWhile_dropWhile, List.takeWhile_append_of_pos hdigits,
    List.dropWhile_append_of_pos hdigits, hrest.1, hrest.2, List.append_nil]

/-- No exponent is read where a number ends. -/
theorem scanExponent_of_ends (parts : Parts) {rest : List Char} (h : Ends rest) :
    scanExponent parts rest = .done (ofParts parts) rest := by
  cases rest with
  | nil => rfl
  | cons c rest =>
    obtain ⟨-, -, he, hE⟩ := h c rfl
    simp [scanExponent, he, hE]

/-- Scanning the digits of a number below 2⁶⁴ gives the number, where it ends. -/
theorem scan_toDigits {n : Nat} (hn : n < UInt64.size) {rest : List Char} (h : Ends rest) :
    scan (Nat.toDigits 10 n ++ rest) = .done (.int n) rest := by
  obtain ⟨c, digits, hdigits, hc⟩ := exists_toDigits_eq_cons n
  have hspan := span_toDigits n h
  have hzero := not_leadingZero_toDigits n
  have hsign : c ≠ '-' := by
    rintro rfl
    cases hc
  have hpoint (text : List Char) : rest ≠ '.' :: text := by
    rintro rfl
    exact (h '.' rfl).2.1 rfl
  rw [← ofParts_toDigits hn]
  rw [hdigits] at hspan hzero ⊢
  have hexponent := scanExponent_of_ends { negative := false, whole := c :: digits } h
  rw [List.cons_append] at hspan ⊢
  unfold scan
  split
  next negative text hsigned =>
    obtain ⟨rfl, rfl⟩ : false = negative ∧ c :: (digits ++ rest) = text := by
      split at hsigned
      · exact absurd (List.cons.inj ‹_›).1 hsign
      · exact Prod.mk.inj hsigned
    simp only [hspan, List.isEmpty_cons, Bool.false_eq_true, if_false, if_neg hzero]
    exact hexponent

variable {suffix : List Char}

/-- Where a number ends, no digit follows the digits of a text. -/
theorem span_append (hsuffix : Ends suffix) (text : List Char) :
    (text ++ suffix).span Char.isDigit =
      ((text.span Char.isDigit).1, (text.span Char.isDigit).2 ++ suffix) := by
  simp only [List.span_eq_takeWhile_dropWhile]
  induction text with
  | nil =>
    cases suffix with
    | nil => rfl
    | cons c rest => simp [(hsuffix c rfl).1]
  | cons c text ih =>
    rw [Prod.mk.injEq] at ih ⊢
    simp only [List.cons_append, List.takeWhile_cons, List.dropWhile_cons]
    split
    · exact ⟨by rw [ih.1], ih.2⟩
    · exact ⟨rfl, rfl⟩

/-- The sign of a number, and what follows it. -/
def sign (text : List Char) : Bool × List Char :=
  match text with
  | '-' :: text => (true, text)
  | _ => (false, text)

/-- The sign of an exponent, and what follows it. -/
def exponentSign (text : List Char) : Bool × List Char :=
  match text with
  | '+' :: text => (false, text)
  | '-' :: text => (true, text)
  | _ => (false, text)

/-- Scan the digits of an exponent. -/
def scanPower (parts : Parts) (negative : Bool) (text : List Char) : Scan Number :=
  let (digits, rest) := text.span Char.isDigit
  if digits.isEmpty then .broken (lacking rest) .malformed
  else .done (ofParts { parts with exponent := some (negative, digits) }) rest

/-- Scan the fraction and the exponent that may follow a whole part. -/
def scanFraction (negative : Bool) (whole text : List Char) : Scan Number :=
  match text with
  | '.' :: text =>
    let (fraction, text) := text.span Char.isDigit
    if fraction.isEmpty then .broken (lacking text) .malformed
    else scanExponent { negative, whole, fraction } text
  | _ => scanExponent { negative, whole } text

/-- Scan a number behind its sign. -/
def scanUnsigned (negative : Bool) (text : List Char) : Scan Number :=
  let (whole, text) := text.span Char.isDigit
  if whole.isEmpty then .broken (lacking text) .malformed
  else if whole.head? = some '0' ∧ whole.length > 1 then .broken .malformed .malformed
  else scanFraction negative whole text

/-- An exponent is its sign and its digits. -/
theorem scanExponent_cons (parts : Parts) (c : Char) (text : List Char) :
    scanExponent parts (c :: text) =
      if c = 'e' ∨ c = 'E' then scanPower parts (exponentSign text).1 (exponentSign text).2
      else .done (ofParts parts) (c :: text) :=
  rfl

/-- A number is its sign and what follows it. -/
theorem scan_eq (text : List Char) : scan text = scanUnsigned (sign text).1 (sign text).2 := rfl

/-- The sign of a number does not depend on what follows. -/
theorem sign_append (c : Char) (text suffix : List Char) :
    sign (c :: text ++ suffix) = ((sign (c :: text)).1, (sign (c :: text)).2 ++ suffix) := by
  by_cases hminus : c = '-'
  · subst hminus
    rfl
  · simp [sign, hminus]

/-- The sign of an exponent does not depend on what follows. -/
theorem exponentSign_append (c : Char) (text suffix : List Char) :
    exponentSign (c :: text ++ suffix) =
      ((exponentSign (c :: text)).1, (exponentSign (c :: text)).2 ++ suffix) := by
  by_cases hplus : c = '+'
  · subst hplus
    rfl
  by_cases hminus : c = '-'
  · subst hminus
    rfl
  · simp [exponentSign, hplus, hminus]

variable {parts : Parts} {negative : Bool} {whole text rest : List Char} {value : Number}

/-- The digits of an exponent are scanned whatever follows them. -/
theorem scanPower_append (hsuffix : Ends suffix)
    (h : scanPower parts negative text = .done value rest) :
    scanPower parts negative (text ++ suffix) = .done value (rest ++ suffix) := by
  rw [scanPower] at h ⊢
  rw [span_append hsuffix]
  simp only at h ⊢
  split at h
  case isTrue => cases h
  case isFalse hdigits =>
    cases h
    exact if_neg hdigits

/-- An exponent, or none, is scanned whatever follows it. -/
theorem scanExponent_append (hsuffix : Ends suffix)
    (h : scanExponent parts text = .done value rest) :
    scanExponent parts (text ++ suffix) = .done value (rest ++ suffix) := by
  cases text with
  | nil =>
    cases h
    exact scanExponent_of_ends parts hsuffix
  | cons c text =>
    rw [scanExponent_cons] at h
    rw [List.cons_append, scanExponent_cons]
    split at h
    case isTrue hexponent =>
      rw [if_pos hexponent]
      cases text with
      | nil => cases h
      | cons d text =>
        rw [exponentSign_append]
        exact scanPower_append hsuffix h
    case isFalse hother =>
      cases h
      exact if_neg hother

/-- A fraction, or none, is scanned whatever follows it. -/
theorem scanFraction_append (hsuffix : Ends suffix)
    (h : scanFraction negative whole text = .done value rest) :
    scanFraction negative whole (text ++ suffix) = .done value (rest ++ suffix) := by
  unfold scanFraction at h ⊢
  split at h
  case h_1 text =>
    simp only [List.cons_append, span_append hsuffix] at h ⊢
    split at h
    case isTrue => cases h
    case isFalse hdigits =>
      rw [if_neg hdigits]
      exact scanExponent_append hsuffix h
  case h_2 hpoint =>
    split
    case h_1 tail htext =>
      cases text with
      | nil =>
        exact absurd rfl (hsuffix '.' (by rw [← List.nil_append suffix, htext]; rfl)).2.1
      | cons c text =>
        cases htext
        exact absurd rfl (hpoint text)
    case h_2 => exact scanExponent_append hsuffix h

/-- A number is scanned whatever follows it. -/
theorem scan_append (hsuffix : Ends suffix) (h : scan text = .done value rest) :
    scan (text ++ suffix) = .done value (rest ++ suffix) := by
  cases text with
  | nil => cases h
  | cons c text =>
    rw [scan_eq, scanUnsigned] at h
    rw [scan_eq, sign_append, scanUnsigned, span_append hsuffix]
    simp only at h ⊢
    split at h
    case isTrue => cases h
    case isFalse hwhole =>
      rw [if_neg hwhole]
      split at h
      case isTrue => cases h
      case isFalse hzero =>
        rw [if_neg hzero]
        exact scanFraction_append hsuffix h

end PluginSchema.Json.Number
