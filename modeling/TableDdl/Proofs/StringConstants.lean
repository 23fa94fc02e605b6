-- String constants as the generated SQL writes them, read back by SQL's lexical rules: a constant
-- is one token that stands for its text and ends where its written form ends, so no two texts are
-- written alike.
import TableDdl.Proofs.SqlReading

namespace TableDdl.Sql

/-! ## Reading a constant -/

/-- Reads the body of a string constant after its opening quote, up to its closing quote: `''`
stands for `'`, and with `escapes` a backslash followed by a backslash or a quote stands for that
character. The other escapes of the escape form are not read here and give nothing. Gives the
text and what follows the closing quote; nothing when the constant is not closed. -/
def constantBody (escapes : Bool) : List Char → Option (List Char × List Char)
  | [] => none
  | [c] => if c = '\'' then some ([], []) else none
  | c :: d :: rest =>
    if c = '\'' then
      if d = '\'' then (constantBody escapes rest).map (Prod.map ('\'' :: ·) id)
      else some ([], d :: rest)
    else if c = '\\' ∧ escapes = true then
      if d = '\\' ∨ d = '\'' then (constantBody escapes rest).map (Prod.map (d :: ·) id)
      else none
    else (constantBody escapes (d :: rest)).map (Prod.map (c :: ·) id)

/-- Reads a string constant at the front of a text: `'...'` by the standard rule, `E'...'` or
`e'...'` by the escape rules. Gives what it stands for and the text after it. -/
def readConstant : List Char → Option (String × List Char)
  | [] => none
  | c :: rest =>
    if c = '\'' then (constantBody false rest).map (Prod.map String.ofList id)
    else if (c = 'E' ∨ c = 'e') ∧ rest.head? = some '\'' then
      (constantBody true rest.tail).map (Prod.map String.ofList id)
    else none

section Body

variable {escapes : Bool}

/-- A doubled quote stands for one quote. -/
theorem constantBody_quote_quote (rest : List Char) :
    constantBody escapes ('\'' :: '\'' :: rest) =
      (constantBody escapes rest).map (Prod.map ('\'' :: ·) id) := by
  simp [constantBody]

/-- A quote that no quote follows closes the constant. -/
theorem constantBody_close {rest : List Char} (h : rest.head? ≠ some '\'') :
    constantBody escapes ('\'' :: rest) = some ([], rest) := by
  cases rest with
  | nil => simp [constantBody]
  | cons d rest =>
    have hd : d ≠ '\'' := by simpa using h
    simp [constantBody, hd]

/-- In the escape form, a doubled backslash stands for one backslash. -/
theorem constantBody_backslash_backslash (rest : List Char) :
    constantBody true ('\\' :: '\\' :: rest) =
      (constantBody true rest).map (Prod.map ('\\' :: ·) id) := by
  simp [constantBody]

/-- Any other character stands for itself: a character other than a quote, and other than a
backslash where escapes are read. -/
theorem constantBody_plain {c : Char} (hq : c ≠ '\'') (hb : c ≠ '\\' ∨ escapes = false)
    (rest : List Char) :
    constantBody escapes (c :: rest) = (constantBody escapes rest).map (Prod.map (c :: ·) id) := by
  have hesc : ¬(c = '\\' ∧ escapes = true) := by
    rintro ⟨rfl, rfl⟩
    simp at hb
  cases rest with
  | nil => simp [constantBody, hq]
  | cons d rest => simp only [constantBody, if_neg hq, if_neg hesc]

end Body

/-- A body with its quotes doubled reads back, by the standard rule, up to its closing quote. -/
theorem constantBody_doubling (l : List Char) {r : List Char} (hr : r.head? ≠ some '\'') :
    constantBody false (doubling '\'' l ++ '\'' :: r) = some (l, r) := by
  induction l with
  | nil => exact constantBody_close hr
  | cons c l ih =>
    by_cases hc : c = '\''
    · subst hc
      simp [doubling_cons, constantBody_quote_quote, ih]
    · simp [doubling_cons, hc, constantBody_plain hc (.inr rfl), ih]

/-- A body with its quotes and then its backslashes doubled reads back, by the escape rules, up to
its closing quote. -/
theorem constantBody_doubling_escapes (l : List Char) {r : List Char} (hr : r.head? ≠ some '\'') :
    constantBody true (doubling '\\' (doubling '\'' l) ++ '\'' :: r) = some (l, r) := by
  induction l with
  | nil => exact constantBody_close hr
  | cons c l ih =>
    by_cases hq : c = '\''
    · subst hq
      simp [doubling_cons, constantBody_quote_quote, ih]
    · by_cases hb : c = '\\'
      · subst hb
        simp [doubling_cons, constantBody_backslash_backslash, ih]
      · simp [doubling_cons, hq, hb, constantBody_plain hq (.inl hb), ih]

/-! ## Written constants -/

/-- The escape form is taken exactly when the text holds a backslash: doubling quotes adds none. -/
theorem quoteLiteral_eq (s : String) :
    quoteLiteral s =
      if '\\' ∈ s.toList then
        String.ofList ('E' :: '\'' :: doubling '\\' (doubling '\'' s.toList) ++ ['\''])
      else String.ofList ('\'' :: doubling '\'' s.toList ++ ['\'']) := by
  have hmem : (doubling '\'' s.toList).contains '\\' = true ↔ '\\' ∈ s.toList := by
    rw [List.contains_iff_mem, mem_doubling]
  unfold quoteLiteral
  by_cases hb : '\\' ∈ s.toList
  · rw [if_pos (hmem.mpr hb), if_pos hb]
  · rw [if_neg (mt hmem.mp hb), if_neg hb]

/-- A written constant is read back as its text, and the reading stops where the written form
ends. -/
theorem readConstant_quoteLiteral (s : String) {r : List Char} (hr : r.head? ≠ some '\'') :
    readConstant ((quoteLiteral s).toList ++ r) = some (s, r) := by
  rw [quoteLiteral_eq]
  split
  · -- the escape form: `E`, then a quote opens the body
    simp [readConstant, constantBody_doubling_escapes s.toList hr]
  · simp [readConstant, constantBody_doubling s.toList hr]

/-- A text without a backslash is written in plain quotes with its quotes doubled, and any other
text in the escape form `E'...'` with its quotes and then its backslashes doubled. Read by SQL's
rules, the constant stands for the text and ends exactly where the written form ends, whatever
follows it short of a quote; so no quote inside ends it early, and no two texts are written
alike. -/
theorem quoteLiteral_reads_back (s : String) :
    (quoteLiteral s =
      if '\\' ∈ s.toList then
        String.ofList ('E' :: '\'' :: doubling '\\' (doubling '\'' s.toList) ++ ['\''])
      else String.ofList ('\'' :: doubling '\'' s.toList ++ ['\''])) ∧
    (∀ r : List Char, r.head? ≠ some '\'' →
      readConstant ((quoteLiteral s).toList ++ r) = some (s, r)) ∧
    ∀ t : String, quoteLiteral t = quoteLiteral s → t = s := by
  refine ⟨quoteLiteral_eq s, fun r hr => readConstant_quoteLiteral s hr, fun t h => ?_⟩
  -- read both written forms with nothing after them
  have hread := readConstant_quoteLiteral t (r := []) (by simp)
  rw [h, readConstant_quoteLiteral s (by simp), Option.some_inj, Prod.mk.injEq] at hread
  exact hread.1.symm

end TableDdl.Sql
