-- Identifiers as the generated SQL writes them. A name is bare exactly when it is safe and no
-- reserved word, either form reads back as the name, and a list of names read back at its commas
-- gives the list.
import TableDdl.Proofs.SqlReading

namespace TableDdl.Sql

/-! ## Bare names -/

/-- A character that may open a bare name: `[a-z_]`. -/
def IsLead (c : Char) : Prop :=
  ('a' ≤ c ∧ c ≤ 'z') ∨ c = '_'

/-- A character that may follow in a bare name: `[a-z0-9_$]`. -/
def IsBody (c : Char) : Prop :=
  IsLead c ∨ ('0' ≤ c ∧ c ≤ '9') ∨ c = '$'

/-- A name that SQL may write bare: it is spelled `[a-z_][a-z0-9_$]*`, and its ASCII upper-case
form is no reserved word. -/
structure BareName (s : String) : Prop where
  spelling : ∃ c rest, s.toList = c :: rest ∧ IsLead c ∧ ∀ d ∈ rest, IsBody d
  unreserved : s.toUpper ∉ reservedWords

theorem isLeadChar_iff {c : Char} : isLeadChar c = true ↔ IsLead c := by
  simp [isLeadChar, IsLead]

theorem isBodyChar_iff {c : Char} : isBodyChar c = true ↔ IsBody c := by
  simp [isBodyChar, IsBody, isLeadChar_iff, or_assoc]

theorem isBareSpelling_iff {l : List Char} :
    isBareSpelling l = true ↔ ∃ c rest, l = c :: rest ∧ IsLead c ∧ ∀ d ∈ rest, IsBody d := by
  cases l with
  | nil => simp [isBareSpelling]
  | cons c rest =>
    simp only [isBareSpelling, Bool.and_eq_true, isLeadChar_iff, List.all_eq_true, isBodyChar_iff]
    constructor
    · exact fun h => ⟨c, rest, rfl, h⟩
    · rintro ⟨c', rest', heq, h⟩
      obtain ⟨rfl, rfl⟩ := List.cons.inj heq
      exact h

/-- The safety test of the quoting is the bare-name rule. -/
theorem isSafe_iff {s : String} : isSafe s = true ↔ BareName s := by
  have hreserved : (!isReserved s) = true ↔ s.toUpper ∉ reservedWords := by
    simp [isReserved]
  rw [isSafe, Bool.and_eq_true, isBareSpelling_iff, hreserved]
  exact ⟨fun h => ⟨h.1, h.2⟩, fun h => ⟨h.1, h.2⟩⟩

/-- The double-quoted form of a name is two characters longer than the name at least. -/
theorem delimitedIdent_ne (s : String) : delimitedIdent s ≠ s := by
  intro h
  have hlen := congrArg (fun t : String => t.toList.length) h
  simp only [delimitedIdent, String.toList_ofList, List.length_cons, List.length_append,
    length_doubling] at hlen
  omega

/-- A name is written as itself exactly when it is a bare name. -/
theorem quoteIdent_eq_self_iff {s : String} : quoteIdent s = s ↔ BareName s := by
  rw [← isSafe_iff, quoteIdent]
  split
  · exact ⟨fun _ => ‹_›, fun _ => rfl⟩
  · exact ⟨fun h => absurd h (delimitedIdent_ne s), fun h => absurd h ‹_›⟩

theorem quoteIdent_of_not_bareName {s : String} (h : ¬BareName s) :
    quoteIdent s = String.ofList ('"' :: doubling '"' s.toList ++ ['"']) := by
  rw [quoteIdent, if_neg (mt isSafe_iff.mp h), delimitedIdent]

/-- No name is written as the empty text. -/
theorem quoteIdent_ne_empty (s : String) : quoteIdent s ≠ "" := by
  unfold quoteIdent
  split
  · rename_i hsafe
    obtain ⟨c, rest, hs, -⟩ := exists_cons_of_isSafe hsafe
    intro h
    simp [h] at hs
  · simp [delimitedIdent, ← String.toList_inj]

/-! ## Splitting a list of names -/

/-- Splits a text at the commas that stand outside double quotes. `inside` tells whether a
double quote is still open, and `part` holds the part read so far, last character first. -/
def splitTopCommas (inside : Bool) (part : List Char) : List Char → List (List Char)
  | [] => [part.reverse]
  | c :: cs =>
    if c = ',' ∧ inside = false then part.reverse :: splitTopCommas false [] cs
    else splitTopCommas (if c = '"' then !inside else inside) (c :: part) cs

/-- What a list of names stands for: the empty text is the empty list, and any other text is
split at the commas outside double quotes, each part read as an identifier. -/
def identList? (s : String) : Option (List String) :=
  if s.isEmpty then some []
  else (splitTopCommas false [] s.toList).mapM fun part => identName? (String.ofList part)

/-- Characters other than `,` and `"` go into the current part. -/
theorem splitTopCommas_plain {inside : Bool} {p : List Char} (hp : ∀ c ∈ p, c ≠ ',' ∧ c ≠ '"')
    (part rest : List Char) :
    splitTopCommas inside part (p ++ rest) = splitTopCommas inside (p.reverse ++ part) rest := by
  induction p generalizing part with
  | nil => rfl
  | cons c p ih =>
    obtain ⟨hcomma, hquote⟩ := hp c List.mem_cons_self
    rw [List.cons_append, splitTopCommas, if_neg (fun h => hcomma h.1), if_neg hquote,
      ih (fun d hd => hp d (List.mem_cons_of_mem _ hd))]
    simp

/-- Inside double quotes, a text with its double quotes doubled goes into the current part,
commas included: each doubled quote closes the quotes and opens them again. -/
theorem splitTopCommas_doubling (l part rest : List Char) :
    splitTopCommas true part (doubling '"' l ++ rest) =
      splitTopCommas true ((doubling '"' l).reverse ++ part) rest := by
  induction l generalizing part with
  | nil => rfl
  | cons c l ih =>
    by_cases hc : c = '"'
    · subst hc
      simp [doubling_cons, splitTopCommas, ih]
    · simp [doubling_cons, hc, splitTopCommas, ih]

/-- A written name goes whole into the current part, with the commas between its double quotes;
after it no double quote is open. -/
theorem splitTopCommas_quoteIdent (s : String) (part rest : List Char) :
    splitTopCommas false part ((quoteIdent s).toList ++ rest) =
      splitTopCommas false ((quoteIdent s).toList.reverse ++ part) rest := by
  unfold quoteIdent
  split
  · -- a bare name holds letters, digits, `_` and `$` only
    rename_i hsafe
    obtain ⟨c, cs, hs, hc, hcs⟩ := exists_cons_of_isSafe hsafe
    refine splitTopCommas_plain (fun d hd => ?_) part rest
    have hbody : isBodyChar d = true := by
      rw [hs, List.mem_cons] at hd
      rcases hd with rfl | hd
      · exact isBodyChar_of_isLeadChar hc
      · exact hcs d hd
    constructor <;> rintro rfl <;> exact absurd hbody (by decide)
  · simp [delimitedIdent, splitTopCommas, splitTopCommas_doubling]

/-- A list of two names or more is the first name written, a comma and the rest written. -/
theorem toList_quoteIdents_cons_cons (x y : String) (ys : List String) :
    (quoteIdents (x :: y :: ys)).toList =
      (quoteIdent x).toList ++ ',' :: (quoteIdents (y :: ys)).toList := by
  simp [quoteIdents]

/-- A list of names, written and joined by commas, splits back into the written names. -/
theorem splitTopCommas_quoteIdents (x : String) (xs : List String) :
    splitTopCommas false [] (quoteIdents (x :: xs)).toList =
      (x :: xs).map fun s => (quoteIdent s).toList := by
  induction xs generalizing x with
  | nil =>
    have h := splitTopCommas_quoteIdent x [] []
    simp only [List.append_nil] at h
    simp [quoteIdents, h, splitTopCommas]
  | cons y ys ih =>
    rw [toList_quoteIdents_cons_cons, splitTopCommas_quoteIdent, splitTopCommas,
      if_pos ⟨rfl, rfl⟩, ih]
    simp

/-- A list that names something is not written as the empty text. -/
theorem quoteIdents_cons_ne_empty (x : String) (xs : List String) : quoteIdents (x :: xs) ≠ "" := by
  cases xs with
  | nil => simpa [quoteIdents] using quoteIdent_ne_empty x
  | cons y ys =>
    rw [ne_eq, ← String.toList_inj, toList_quoteIdents_cons_cons]
    simp

/-- A list of names, written, reads back as the list. -/
theorem identList?_quoteIdents (xs : List String) : identList? (quoteIdents xs) = some xs := by
  cases xs with
  | nil => rfl
  | cons x xs =>
    have hne : (quoteIdents (x :: xs)).isEmpty = false := by
      simpa [String.isEmpty_iff] using quoteIdents_cons_ne_empty x xs
    rw [identList?, if_neg (by simp [hne]), splitTopCommas_quoteIdents, List.mapM_map]
    -- each written name reads back as itself
    simpa [Function.comp_def, identName?_quoteIdent] using
      List.mapM_pure (m := Option) (l := x :: xs) (f := id)

/-- A name is written bare exactly when it is a bare name, and otherwise between double quotes
with its double quotes doubled; either form reads back as the name. A list of names, written and
joined by commas, reads back as the list when split at the commas outside double quotes, so two
different lists are never written alike. -/
theorem quoteIdent_forms_read_back :
    (∀ s : String, (quoteIdent s = s ↔ BareName s) ∧
      (¬BareName s → quoteIdent s = String.ofList ('"' :: doubling '"' s.toList ++ ['"'])) ∧
      identName? (quoteIdent s) = some s) ∧
    (∀ xs : List String, identList? (quoteIdents xs) = some xs) ∧
    Function.Injective quoteIdents := by
  refine ⟨fun s => ⟨quoteIdent_eq_self_iff, quoteIdent_of_not_bareName, identName?_quoteIdent s⟩,
    identList?_quoteIdents, fun xs ys h => ?_⟩
  have hread := congrArg identList? h
  rwa [identList?_quoteIdents, identList?_quoteIdents, Option.some_inj] at hread

end TableDdl.Sql
