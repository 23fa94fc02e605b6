-- How SQL reads back the tokens that quoting writes: a quoted name reads back as the name, and a
-- string constant that has lost the `E` of its escape form reads as the text with its backslashes
-- doubled.
import TableDdl.Template.Render

namespace TableDdl.Sql

open Template (dropNul)

/-! ## Doubling a character -/

section Doubling

variable {q : Char} {l : List Char}

theorem doubling_cons (c : Char) (l : List Char) :
    doubling q (c :: l) = if c = q then q :: q :: doubling q l else c :: doubling q l :=
  rfl

theorem doubling_append (l l' : List Char) :
    doubling q (l ++ l') = doubling q l ++ doubling q l' := by
  induction l with
  | nil => rfl
  | cons c l ih => by_cases hc : c = q <;> simp [doubling_cons, hc, ih]

theorem doubling_eq_self (h : q ∉ l) : doubling q l = l := by
  induction l with
  | nil => rfl
  | cons c l ih =>
    have hc : c ≠ q := fun hc => h (hc ▸ List.mem_cons_self)
    simp [doubling_cons, hc, ih fun hq => h (List.mem_cons_of_mem _ hq)]

/-- Doubling two different characters, in either order, gives the same text. -/
theorem doubling_comm {p : Char} (hpq : p ≠ q) (l : List Char) :
    doubling p (doubling q l) = doubling q (doubling p l) := by
  induction l with
  | nil => rfl
  | cons c l ih =>
    by_cases hq : c = q
    · subst hq
      simp [doubling_cons, Ne.symm hpq, ih]
    · by_cases hp : c = p
      · subst hp
        simp [doubling_cons, hpq, ih]
      · simp [doubling_cons, hp, hq, ih]

/-- Dropping characters other than `q` commutes with doubling `q`. -/
theorem filter_doubling {f : Char → Bool} (hq : f q = true) (l : List Char) :
    (doubling q l).filter f = doubling q (l.filter f) := by
  induction l with
  | nil => rfl
  | cons c l ih =>
    by_cases hc : c = q
    · subst hc
      simp [doubling_cons, hq, ih]
    · by_cases hf : f c = true <;> simp [doubling_cons, hc, hf, ih]

/-- Doubling adds one character for each occurrence of the doubled one. -/
theorem length_doubling (l : List Char) : (doubling q l).length = l.length + l.count q := by
  induction l with
  | nil => rfl
  | cons c l ih =>
    by_cases hc : c = q
    · subst hc
      simp [doubling_cons, ih]
      omega
    · simp [doubling_cons, hc, ih]
      omega

theorem doubling_eq_self_iff : doubling q l = l ↔ q ∉ l := by
  refine ⟨fun h hq => ?_, doubling_eq_self⟩
  have hlen := congrArg List.length h
  rw [length_doubling] at hlen
  have hpos := List.count_pos_iff.mpr hq
  omega

theorem mem_doubling {c : Char} : c ∈ doubling q l ↔ c ∈ l := by
  induction l with
  | nil => rfl
  | cons d l ih => by_cases hd : d = q <;> simp [doubling_cons, hd, ih]

theorem head?_doubling (l : List Char) : (doubling q l).head? = l.head? := by
  cases l with
  | nil => rfl
  | cons c l => by_cases hc : c = q <;> simp [doubling_cons, hc]

end Doubling

/-! ## Reading quoted tokens -/

/-- The body of a token quoted with `q`, read after its opening quote: `qq` stands for one `q`,
and a lone `q` closes the token, which must end there. Nothing when the token is not closed, or
goes on after its closing quote. -/
def quotedBody? (q : Char) : List Char → Option (List Char)
  | [] => none
  | [c] => if c = q then some [] else none
  | c :: d :: rest =>
    if c = q then (if d = q then (quotedBody? q rest).map (q :: ·) else none)
    else (quotedBody? q (d :: rest)).map (c :: ·)

/-- A token quoted with `q` whose body has each `q` written twice reads back as the body. -/
theorem quotedBody?_doubling (q : Char) (l : List Char) :
    quotedBody? q (doubling q l ++ [q]) = some l := by
  induction l with
  | nil => simp [doubling, quotedBody?]
  | cons c l ih =>
    by_cases hc : c = q
    · subst hc
      simp [doubling_cons, quotedBody?, ih]
    · -- the rest of the token is not empty: at least its closing quote is left
      obtain ⟨d, rest, hd⟩ : ∃ d rest, doubling q l ++ [q] = d :: rest :=
        List.exists_cons_of_ne_nil (by simp)
      rw [doubling_cons, if_neg hc, List.cons_append, hd, quotedBody?, if_neg hc, ← hd, ih]
      rfl

/-- What a string constant stands for when backslashes are ordinary characters: the text between
its quotes, with `''` read as `'`. -/
def constantText? (s : String) : Option String :=
  match s.toList with
  | '\'' :: rest => (quotedBody? '\'' rest).map String.ofList
  | _ => none

/-- A character that may open a bare identifier: a lower-case or upper-case ASCII letter, `_`,
or any character past ASCII. -/
def isIdentStart (c : Char) : Bool :=
  isLeadChar c || ('A' ≤ c && c ≤ 'Z') || 127 < c.toNat

/-- A character that may follow in a bare identifier: an opening character, an ASCII digit or
`$`. -/
def isIdentPart (c : Char) : Bool :=
  isBodyChar c || ('A' ≤ c && c ≤ 'Z') || 127 < c.toNat

/-- The name an identifier stands for: for a double-quoted one, the text between its quotes with
`""` read as `"`; for a bare one, its spelling with ASCII capitals folded to lower case. -/
def identName? (s : String) : Option String :=
  match s.toList with
  | '"' :: rest => (quotedBody? '"' rest).map String.ofList
  | c :: rest =>
    if isIdentStart c && rest.all isIdentPart then some (String.ofList ((c :: rest).map Char.toLower))
    else none
  | [] => none

/-! ## Quoting, then reading -/

/-- A character of a bare name is no ASCII capital, so folding leaves it alone. -/
theorem toLower_of_isBodyChar {c : Char} (h : isBodyChar c = true) : c.toLower = c := by
  simp only [isBodyChar, isLeadChar, Bool.or_eq_true, Bool.and_eq_true, decide_eq_true_eq,
    beq_iff_eq, Char.le_def, Char.ext_iff, UInt32.le_iff_toNat_le, ← UInt32.toNat_inj] at h
  unfold Char.toLower
  split
  · rename_i hupper
    simp only [UInt32.le_iff_toNat_le, ge_iff_le] at hupper
    -- the code points of the letters, digits and marks involved
    have hA : ('A' : Char).val.toNat = 65 := rfl
    have hZ : ('Z' : Char).val.toNat = 90 := rfl
    have ha : ('a' : Char).val.toNat = 97 := rfl
    have hz : ('z' : Char).val.toNat = 122 := rfl
    have h0 : ('0' : Char).val.toNat = 48 := rfl
    have h9 : ('9' : Char).val.toNat = 57 := rfl
    have hu : ('_' : Char).val.toNat = 95 := rfl
    have hd : ('$' : Char).val.toNat = 36 := rfl
    omega
  · rfl

theorem isBodyChar_of_isLeadChar {c : Char} (h : isLeadChar c = true) : isBodyChar c = true := by
  simp [isBodyChar, h]

theorem toList_dropNul (s : String) : (dropNul s).toList = s.toList.filter (· ≠ '\x00') := by
  simp [Template.dropNul]

theorem dropNul_eq_self_iff {s : String} : dropNul s = s ↔ '\x00' ∉ s.toList := by
  rw [← String.toList_inj, toList_dropNul, List.filter_eq_self]
  simpa using List.forall_mem_ne'

theorem dropNul_eq_self {s : String} (h : '\x00' ∉ s.toList) : dropNul s = s :=
  dropNul_eq_self_iff.mpr h

/-- A name written bare is a lead character followed by body characters. -/
theorem exists_cons_of_isSafe {s : String} (h : isSafe s = true) :
    ∃ c rest, s.toList = c :: rest ∧ isLeadChar c = true ∧ ∀ d ∈ rest, isBodyChar d = true := by
  simp only [isSafe, Bool.and_eq_true] at h
  cases hl : s.toList with
  | nil => simp [hl, isBareSpelling] at h
  | cons c rest =>
    have hb := h.1
    rw [hl, isBareSpelling, Bool.and_eq_true, List.all_eq_true] at hb
    exact ⟨c, rest, rfl, hb⟩

/-- A name written bare is read as itself. -/
theorem identName?_of_isSafe {s : String} (h : isSafe s = true) : identName? s = some s := by
  obtain ⟨c, rest, hs, hc, hrest⟩ := exists_cons_of_isSafe h
  have hquote : c ≠ '"' := by
    rintro rfl
    exact absurd hc (by decide)
  have hstart : isIdentStart c = true := by simp [isIdentStart, hc]
  have hpart : rest.all isIdentPart = true :=
    List.all_eq_true.mpr fun d hd => by simp [isIdentPart, hrest d hd]
  have hfold : (c :: rest).map Char.toLower = c :: rest := by
    rw [List.map_cons, toLower_of_isBodyChar (isBodyChar_of_isLeadChar hc),
      List.map_congr_left (fun d hd => toLower_of_isBodyChar (hrest d hd)), List.map_id']
  unfold identName?
  split
  · rename_i heq
    rw [hs] at heq
    exact absurd (List.cons.inj heq).1 hquote
  · rename_i c' rest' _ heq
    rw [hs] at heq
    obtain ⟨rfl, rfl⟩ := List.cons.inj heq
    rw [if_pos (by simp [hstart, hpart]), hfold, ← hs, String.ofList_toList]
  · rename_i heq
    rw [hs] at heq
    exact absurd heq (List.cons_ne_nil _ _)

/-- A double-quoted name, with or without its NUL characters, reads as the name without them. -/
theorem identName?_delimited (l : List Char) :
    identName? (String.ofList ('"' :: doubling '"' l ++ ['"'])) = some (String.ofList l) := by
  simp only [identName?, String.toList_ofList, List.cons_append, quotedBody?_doubling,
    Option.map_some]

/-- A name quoted for SQL reads back as the name. -/
theorem identName?_quoteIdent (s : String) : identName? (quoteIdent s) = some s := by
  unfold quoteIdent
  split
  · exact identName?_of_isSafe ‹_›
  · rw [delimitedIdent, identName?_delimited, String.ofList_toList]

/-- A name written bare has no NUL: its characters are letters, digits, `_` and `$`. -/
theorem nul_not_mem_of_isSafe {s : String} (h : isSafe s = true) : '\x00' ∉ s.toList := by
  obtain ⟨c, rest, hs, hc, hrest⟩ := exists_cons_of_isSafe h
  rw [hs, List.mem_cons]
  rintro (hn | hn)
  · exact absurd (hn ▸ hc) (by decide)
  · exact absurd (hrest _ hn) (by decide)

/-- A double-quoted name without its NUL characters is the name without them, double-quoted. -/
theorem toList_dropNul_delimitedIdent (s : String) :
    (dropNul (delimitedIdent s)).toList = '"' :: (doubling '"' (dropNul s).toList ++ ['"']) := by
  simp [delimitedIdent, toList_dropNul, List.filter_append, filter_doubling]

/-- A quoted name without its NUL characters reads back as the name without them. -/
theorem identName?_dropNul_quoteIdent (s : String) :
    identName? (dropNul (quoteIdent s)) = some (dropNul s) := by
  unfold quoteIdent
  split
  · rename_i hsafe
    rw [dropNul_eq_self (nul_not_mem_of_isSafe hsafe)]
    exact identName?_of_isSafe hsafe
  · rw [← String.ofList_toList (s := dropNul (delimitedIdent s)), toList_dropNul_delimitedIdent,
      ← List.cons_append, identName?_delimited, String.ofList_toList]

/-- The text with every backslash written twice. -/
def doubleBackslashes (s : String) : String :=
  String.ofList (doubling '\\' s.toList)

/-- A string constant without the `E` of the escape form: quotes are doubled, and so are
backslashes, whether or not there is one. -/
theorem toList_stripEscapePrefix_quoteLiteral (s : String) :
    (stripEscapePrefix (quoteLiteral s)).toList =
      '\'' :: (doubling '\'' (doubling '\\' s.toList) ++ ['\'']) := by
  have hcomm := doubling_comm (p := '\\') (q := '\'') (by decide) s.toList
  dsimp only [quoteLiteral]
  split
  · -- an escape-string constant loses its `E`
    simp [stripEscapePrefix, hcomm]
  · rename_i hnone
    have hs : '\\' ∉ s.toList := fun h => hnone (by simpa using mem_doubling.mpr h)
    rw [doubling_eq_self hs]
    -- a constant in plain quotes has no `E` to drop
    unfold stripEscapePrefix
    split
    · rename_i c rest heq
      simp only [String.toList_ofList, List.cons_append, List.cons.injEq] at heq
      rw [if_neg (by rw [← heq.1]; decide), String.toList_ofList, List.cons_append]
    · rw [String.toList_ofList, List.cons_append]

theorem constantText?_of_toList {s : String} {rest : List Char} (h : s.toList = '\'' :: rest) :
    constantText? s = (quotedBody? '\'' rest).map String.ofList := by
  unfold constantText?
  split
  · rename_i rest' heq
    rw [h, List.cons.injEq] at heq
    rw [heq.2]
  · rename_i hne
    exact absurd h (hne rest)

/-- The same constant without its NUL characters: they are dropped from the text inside. -/
theorem toList_dropNul_stripEscapePrefix_quoteLiteral (s : String) :
    (dropNul (stripEscapePrefix (quoteLiteral s))).toList =
      '\'' :: (doubling '\'' (dropNul (doubleBackslashes s)).toList ++ ['\'']) := by
  simp [toList_dropNul, toList_stripEscapePrefix_quoteLiteral, doubleBackslashes,
    List.filter_append, filter_doubling]

/-- A string constant that lost the `E` of its escape form reads, with backslashes as ordinary
characters, as its text with every backslash doubled; NUL characters dropped from the constant
are dropped from what it reads as. -/
theorem constantText?_dropNul_stripEscapePrefix (s : String) :
    constantText? (dropNul (stripEscapePrefix (quoteLiteral s))) =
      some (dropNul (doubleBackslashes s)) := by
  rw [constantText?_of_toList (toList_dropNul_stripEscapePrefix_quoteLiteral s),
    quotedBody?_doubling, Option.map_some, String.ofList_toList]

end TableDdl.Sql
