import PluginSchema.Json.Quoted

/-!
# Scanning written strings

A string is written character by character, and each character is read back as one piece: a
letter's character or a code. The code of a control character is no half of a character, so the
pieces give back the text. However a string is written, it does not matter what follows its
closing quote.
-/

namespace PluginSchema.Json.Quoted

/-- The characters that are written by a letter. -/
def lettered : List Char := ['"', '\\', '\x08', '\x0c', '\n', '\r', '\t']

/-- The piece that is read for a written character: a control character that no letter names is
given by its code. -/
def piece (c : Char) : Piece :=
  if c ∈ lettered ∨ ' ' ≤ c then .char c else .unit c.toNat

/-- Two zeros and the two digits of a small code give the code. -/
theorem code?_hexDigit {n : Nat} (h : n < 32) :
    code? '0' '0' (hexDigit (n / 16)) (hexDigit (n % 16)) = some n := by
  revert n
  decide

/-- A written character is cut off as its piece. -/
theorem piecesOnto_escape (before : List Piece) (c : Char) (text : List Char) :
    piecesOnto before (escape c ++ text) = piecesOnto (piece c :: before) text := by
  by_cases hletter : c ∈ lettered
  · simp only [lettered, List.mem_cons, List.not_mem_nil, or_false] at hletter
    rcases hletter with rfl | rfl | rfl | rfl | rfl | rfl | rfl <;>
      simp [escape, piece, lettered, piecesOnto.eq_def before (_ :: _), named?]
  · have hpiece : piece c = if ' ' ≤ c then .char c else .unit c.toNat := by
      simp [piece, hletter]
    have hescape : escape c = if c < ' ' then
        ['\\', 'u', '0', '0', hexDigit (c.toNat / 16), hexDigit (c.toNat % 16)] else [c] := by
      simp only [lettered, List.mem_cons, List.not_mem_nil, or_false, not_or] at hletter
      simp [escape, hletter]
    rw [hpiece, hescape]
    by_cases hlow : c < ' '
    · have hcode : c.toNat < 32 := hlow
      rw [if_pos hlow, if_neg (Char.not_le.mpr hlow)]
      simp only [List.cons_append, List.nil_append, piecesOnto, code?_hexDigit hcode]
      rfl
    · simp only [lettered, List.mem_cons, List.not_mem_nil, or_false, not_or] at hletter
      rw [if_neg hlow, if_pos (Char.not_lt.mp hlow), List.singleton_append, piecesOnto.eq_def]
      simp only [hletter, hlow, if_false]

/-- The piece of a character stands for it. -/
theorem textOnto_piece (before : List Char) (c : Char) (pieces : List Piece) :
    textOnto before (piece c :: pieces) = textOnto (c :: before) pieces := by
  unfold piece
  split
  next => rfl
  next h =>
    -- a code below that of the blank is no half of a character
    have hcode : c.toNat < 32 := Char.not_le.mp (not_or.mp h).2
    have hhigh : isHigh c.toNat = false := by simp [isHigh]; omega
    have hlow : isLow c.toNat = false := by simp [isLow]; omega
    rw [textOnto.eq_def]
    simp [hhigh, hlow]

/-- A written text is cut into the pieces of its characters. -/
theorem piecesOnto_flatMap_escape (before : List Piece) (text rest : List Char) :
    piecesOnto before (text.flatMap escape ++ '"' :: rest) =
      .closed (before.reverse ++ text.map piece) rest := by
  induction text generalizing before with
  | nil => simp [piecesOnto.eq_def before (_ :: _)]
  | cons c text ih =>
    rw [List.flatMap_cons, List.append_assoc, piecesOnto_escape, ih]
    simp

/-- The pieces of characters give back the characters. -/
theorem textOnto_map_piece (before text : List Char) :
    textOnto before (text.map piece) = some (before.reverse ++ text) := by
  induction text generalizing before with
  | nil => simp [textOnto]
  | cons c text ih =>
    rw [List.map_cons, textOnto_piece, ih]
    simp

/-- Scanning a written text behind its opening quote gives the text and stops behind it. -/
theorem scan_flatMap_escape (text : String) (rest : List Char) :
    scan (text.toList.flatMap escape ++ '"' :: rest) = .done (some text) rest := by
  rw [scan, piecesOnto_flatMap_escape, List.reverse_nil, List.nil_append]
  simp only [textOnto_map_piece, List.reverse_nil, List.nil_append, Option.map_some,
    String.ofList_toList]

/-- Pieces of a string are cut whatever follows its closing quote. -/
theorem piecesOnto_append {before pieces : List Piece} {text rest : List Char}
    (h : piecesOnto before text = .closed pieces rest) (suffix : List Char) :
    piecesOnto before (text ++ suffix) = .closed pieces (rest ++ suffix) := by
  fun_induction piecesOnto before text with
  | case1 | case3 | case5 | case6 | case8 | case9 => cases h
  | case2 =>
    cases h
    rw [List.cons_append, piecesOnto.eq_def]
    rfl
  | case4 before a b c d text code hcode _ ih =>
    rw [← ih h]
    simp only [List.cons_append, piecesOnto, hcode]
    rfl
  | case7 before letter text hunit named hnamed _ ih =>
    rw [← ih h, List.cons_append, List.cons_append, piecesOnto.eq_def]
    simp only [if_neg hunit, hnamed]
    rfl
  | case10 before c text hquote hbackslash hcontrol ih =>
    rw [← ih h, List.cons_append, piecesOnto.eq_def]
    simp only [if_neg hquote, if_neg hbackslash, if_neg hcontrol]

/-- A string is scanned whatever follows its closing quote. -/
theorem scan_append {text rest : List Char} {value : Option String}
    (h : scan text = .done value rest) (suffix : List Char) :
    scan (text ++ suffix) = .done value (rest ++ suffix) := by
  rw [scan] at h ⊢
  cases hpieces : piecesOnto [] text with
  | broken pieces fault =>
    rw [hpieces] at h
    cases h
  | closed pieces tail =>
    rw [hpieces] at h
    cases h
    rw [piecesOnto_append hpieces]

end PluginSchema.Json.Quoted
