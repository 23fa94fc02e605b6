-- The steps of the template reader, one lemma for each thing it can meet at the front of the text.
-- Later proofs cite these lemmas and do not unfold `scanFrom`.
import Mathlib.Data.String.Basic
import TableDdl.Template.Scan

namespace TableDdl.Template

open String (utf8Len)

/-! ## Kind letters and names -/

@[simp]
theorem Kind.ofLetter?_letter (k : Kind) : Kind.ofLetter? k.letter = some k := by
  cases k <;> rfl

theorem Kind.eq_letter_of_ofLetter? {d : Char} {k : Kind} (h : Kind.ofLetter? d = some k) :
    d = k.letter := by
  unfold Kind.ofLetter? at h
  grind [Kind.letter]

@[simp]
theorem Kind.letter_ne_percent (k : Kind) : k.letter ≠ '%' := by
  cases k <;> decide

@[simp]
theorem Kind.utf8Size_letter (k : Kind) : k.letter.utf8Size = 1 := by
  cases k <;> rfl

@[simp]
theorem utf8Size_percent : ('%' : Char).utf8Size = 1 := rfl

@[simp]
theorem utf8Size_colon : (':' : Char).utf8Size = 1 := rfl

@[simp]
theorem isNameChar_percent : isNameChar '%' = false := rfl

@[simp]
theorem isNameChar_colon : isNameChar ':' = false := rfl

theorem ne_percent_of_isNameChar {c : Char} (h : isNameChar c = true) : c ≠ '%' := by
  rintro rfl
  simp at h

/-- A name character is ASCII, so it takes one byte. -/
theorem utf8Size_of_isNameChar {c : Char} (h : isNameChar c = true) : c.utf8Size = 1 := by
  have hle : c ≤ 'z' := by
    simp only [isNameChar, Bool.or_eq_true, Bool.and_eq_true, decide_eq_true_eq,
      beq_iff_eq] at h
    rcases h with ((⟨_, h⟩ | ⟨_, h⟩) | ⟨_, h⟩) | rfl
    all_goals first | exact Char.le_trans h (by decide) | decide
  rw [Char.utf8Size_eq_one_iff]
  exact Nat.le_trans hle (by decide)

theorem utf8Len_of_isNameChar {l : List Char} (h : ∀ c ∈ l, isNameChar c = true) :
    utf8Len l = l.length := by
  induction l with
  | nil => rfl
  | cons c l ih =>
    rw [String.utf8Len_cons, utf8Size_of_isNameChar (h c List.mem_cons_self),
      ih fun x hx => h x (List.mem_cons_of_mem c hx), List.length_cons]

/-- A placeholder name: at least one character, each an ASCII letter, digit or `_`. -/
def IsName (n : String) : Prop :=
  n.toList ≠ [] ∧ ∀ c ∈ n.toList, isNameChar c = true

instance : DecidablePred IsName := fun n =>
  decidable_of_iff ((!n.toList.isEmpty && n.toList.all isNameChar) = true)
    (by simp [IsName])

/-- Whether text that follows a placeholder would be read as part of it: a name character after a
named placeholder lengthens its name, and `:` with a name character gives a bare placeholder
one. -/
def extendsName : Option String → List Char → Bool
  | some _, c :: _ => isNameChar c
  | none, c :: d :: _ => c == ':' && isNameChar d
  | _, _ => false

/-- A `%` ends any name. -/
@[simp]
theorem extendsName_percent (name : Option String) (l : List Char) :
    extendsName name ('%' :: l) = false := by
  cases name <;> cases l <;> simp [extendsName]

/-- Text that would extend a name still does with more text after it. -/
theorem extendsName_append {name : Option String} {l : List Char} (m : List Char)
    (h : extendsName name l = true) : extendsName name (l ++ m) = true := by
  match name, l with
  | some _, [] | none, [] | none, [_] => simp [extendsName] at h
  | some _, _ :: _ | none, _ :: _ :: _ => exact h

/-- Only the first two characters count, and a `%` among them ends any name, so a `%` written
twice reads as a `%` written once. -/
theorem extendsName_append_percent (name : Option String) (l m : List Char) :
    extendsName name (l ++ '%' :: m) = extendsName name l := by
  match name, l with
  | some _, [] | none, [] =>
    rw [List.nil_append, extendsName_percent]
    rfl
  | some _, _ :: _ | none, _ :: _ :: _ => rfl
  | none, [_] => simp [extendsName]

/-- Text that does not open with `:` and a character gives no unnamed placeholder a name. -/
theorem extendsName_none_of_ne {more : List Char} (h : ∀ n after, more ≠ ':' :: n :: after) :
    extendsName none more = false := by
  match more, h with
  | [], _ | [_], _ => rfl
  | c :: m :: after, h =>
    by_cases hc : c = ':'
    · subst hc
      exact absurd rfl (h m after)
    · simp [extendsName, hc]

/-- The reader stops a name where the name characters stop. -/
theorem extendsName_dropWhile (n : String) (l : List Char) :
    extendsName (some n) (l.dropWhile isNameChar) = false := by
  have h := List.head?_dropWhile_not isNameChar l
  match hd : l.dropWhile isNameChar with
  | [] => rfl
  | c :: _ =>
    rw [hd] at h
    exact h

/-- The name the reader takes after `:` is a name. -/
theorem isName_takeWhile {n : Char} (after : List Char) (hn : isNameChar n = true) :
    IsName (String.ofList (n :: after.takeWhile isNameChar)) := by
  refine ⟨by simp, ?_⟩
  intro c hc
  rw [String.toList_ofList, List.mem_cons] at hc
  rcases hc with rfl | hc
  · exact hn
  · exact List.all_eq_true.mp List.all_takeWhile c hc

/-! ## Escaping -/

@[simp]
theorem escapePercent_nil : escapePercent [] = [] := rfl

theorem escapePercent_cons_of_ne {c : Char} (l : List Char) (h : c ≠ '%') :
    escapePercent (c :: l) = c :: escapePercent l := by
  simp [escapePercent, h]

@[simp]
theorem escapePercent_append (l m : List Char) :
    escapePercent (l ++ m) = escapePercent l ++ escapePercent m := by
  induction l with
  | nil => rfl
  | cons c l ih => by_cases h : c = '%' <;> simp [escapePercent, h, ih]

/-- Doubling `%` does not change whether text extends a name. -/
theorem extendsName_escapePercent (name : Option String) (l m : List Char) :
    extendsName name (escapePercent l ++ m) = extendsName name (l ++ m) := by
  match l with
  | [] => rfl
  | c :: l =>
    by_cases hc : c = '%'
    · subst hc
      simp [escapePercent]
    · rw [escapePercent_cons_of_ne l hc]
      match name, l with
      | some _, _ | none, [] => rfl
      | none, d :: l =>
        by_cases hd : d = '%'
        · subst hd
          simp [escapePercent, extendsName]
        · rw [escapePercent_cons_of_ne l hd]
          rfl

/-! ## Written segments -/

@[simp]
theorem sourceOf_nil : sourceOf [] = [] := rfl

@[simp]
theorem sourceOf_cons (s : Segment) (segs : List Segment) :
    sourceOf (s :: segs) = s.toSource ++ sourceOf segs := rfl

@[simp]
theorem sourceOf_append (segs segs' : List Segment) :
    sourceOf (segs ++ segs') = sourceOf segs ++ sourceOf segs' := by
  simp [sourceOf]

@[simp]
theorem holes_append (segs segs' : List Segment) :
    holes (segs ++ segs') = holes segs ++ holes segs' := by
  induction segs with
  | nil => rfl
  | cons s segs ih => cases s <;> simp [holes, ih]

/-- A written placeholder begins with `%`. -/
theorem Placeholder.toSource_eq (p : Placeholder) :
    p.toSource = '%' :: p.kind.letter :: (match p.name with
      | some n => ':' :: n.toList
      | none => []) := rfl

theorem utf8Len_toSource_none {p : Placeholder} (h : p.name = none) :
    utf8Len p.toSource = 2 := by
  simp [Placeholder.toSource_eq, h]

theorem utf8Len_toSource_some {p : Placeholder} {n : String} (h : p.name = some n)
    (hn : IsName n) : utf8Len p.toSource = 3 + n.toList.length := by
  simp only [Placeholder.toSource_eq, h, String.utf8Len_cons, utf8Len_of_isNameChar hn.2,
    Kind.utf8Size_letter, utf8Size_percent, utf8Size_colon]
  omega

@[simp]
theorem flushText_nil (out : List Segment) : flushText [] out = out := rfl

theorem flushText_of_ne_nil {buf : List Char} (out : List Segment) (h : buf ≠ []) :
    flushText buf out = .text (String.ofList buf.reverse) :: out := by
  simp [flushText, h]

/-- Closing the pending text writes it after what was read before. -/
theorem sourceOf_reverse_flushText (buf : List Char) (out : List Segment) :
    sourceOf (flushText buf out).reverse = sourceOf out.reverse ++ escapePercent buf.reverse := by
  by_cases h : buf = []
  · simp [h]
  · simp [flushText_of_ne_nil out h, Segment.toSource]

@[simp]
theorem holes_reverse_flushText (buf : List Char) (out : List Segment) :
    holes (flushText buf out).reverse = holes out.reverse := by
  by_cases h : buf = []
  · simp [h]
  · simp [flushText_of_ne_nil out h, holes]

/-! ## One step of the reader -/

section Steps

variable (pos : Nat) (buf : List Char) (out : List Segment)

theorem scanFrom_nil : scanFrom [] pos buf out = .ok (flushText buf out).reverse := by
  rw [scanFrom.eq_def]

theorem scanFrom_char {c : Char} (rest : List Char) (hc : c ≠ '%') :
    scanFrom (c :: rest) pos buf out = scanFrom rest (pos + c.utf8Size) (c :: buf) out := by
  rw [scanFrom.eq_def]
  simp [hc]

theorem scanFrom_percent_end : scanFrom ['%'] pos buf out = .error (.unknownPlaceholder "" pos) := by
  rw [scanFrom.eq_def]
  simp

/-- A `%` followed by a character that is neither `%` nor a kind letter. -/
theorem scanFrom_unknown {d : Char} (more : List Char) (hd : d ≠ '%')
    (hk : Kind.ofLetter? d = none) :
    scanFrom ('%' :: d :: more) pos buf out =
      .error (.unknownPlaceholder (String.singleton d) pos) := by
  rw [scanFrom.eq_def]
  simp [hd, hk]

theorem scanFrom_escape (rest : List Char) :
    scanFrom ('%' :: '%' :: rest) pos buf out = scanFrom rest (pos + 2) ('%' :: buf) out := by
  rw [scanFrom.eq_def]
  simp

/-- A kind letter and `:` followed by a name character: the name is the longest run of name
characters. -/
theorem scanFrom_named (k : Kind) {n : Char} (after : List Char) (hn : isNameChar n = true) :
    scanFrom ('%' :: k.letter :: ':' :: n :: after) pos buf out =
      scanFrom (after.dropWhile isNameChar) (pos + 3 + (n :: after.takeWhile isNameChar).length) []
        (.hole ⟨k, some (String.ofList (n :: after.takeWhile isNameChar)), pos⟩ ::
          flushText buf out) := by
  rw [scanFrom.eq_def]
  simp [hn]

/-- A kind letter with nothing after it that could start a name. -/
theorem scanFrom_unnamed (k : Kind) {rest : List Char} (h : extendsName none rest = false) :
    scanFrom ('%' :: k.letter :: rest) pos buf out =
      scanFrom rest (pos + 2) [] (.hole ⟨k, none, pos⟩ :: flushText buf out) := by
  rw [scanFrom.eq_def]
  simp only [if_pos, Kind.letter_ne_percent, if_false, Kind.ofLetter?_letter]
  split
  · next n after _ => simp_all [extendsName]
  · rfl

/-- A named placeholder as the reader takes it is written back as what it read. -/
theorem toSource_takeWhile (k : Kind) (n : Char) (after : List Char) :
    Placeholder.toSource ⟨k, some (String.ofList (n :: after.takeWhile isNameChar)), pos⟩ ++
      after.dropWhile isNameChar = '%' :: k.letter :: ':' :: n :: after := by
  simp [Placeholder.toSource_eq]

/-- Escaped text goes into the pending text whole. -/
theorem scanFrom_escapePercent (t rest : List Char) :
    scanFrom (escapePercent t ++ rest) pos buf out =
      scanFrom rest (pos + utf8Len (escapePercent t)) (t.reverse ++ buf) out := by
  induction t generalizing pos buf with
  | nil => simp
  | cons c t ih =>
    by_cases hc : c = '%'
    · subst hc
      rw [show escapePercent ('%' :: t) = '%' :: '%' :: escapePercent t from rfl,
        List.cons_append, List.cons_append, scanFrom_escape, ih]
      simp only [String.utf8Len_cons, List.reverse_cons, List.append_assoc, List.cons_append,
        List.nil_append]
      congr 1
      simp
      omega
    · rw [escapePercent_cons_of_ne t hc, List.cons_append, scanFrom_char _ _ _ _ hc, ih]
      simp only [String.utf8Len_cons, List.reverse_cons, List.append_assoc, List.cons_append,
        List.nil_append]
      congr 1
      omega

/-- A written placeholder is read back as itself, provided what follows cannot extend its
name. -/
theorem scanFrom_toSource {p : Placeholder} (rest : List Char)
    (hname : ∀ n, p.name = some n → IsName n) (hnext : extendsName p.name rest = false) :
    scanFrom (p.toSource ++ rest) p.position buf out =
      scanFrom rest (p.position + utf8Len p.toSource) [] (.hole p :: flushText buf out) := by
  obtain ⟨k, name, pos⟩ := p
  cases name with
  | none =>
    rw [utf8Len_toSource_none rfl]
    exact scanFrom_unnamed pos buf out k hnext
  | some n =>
    obtain ⟨hne, hall⟩ := hname n rfl
    obtain ⟨c, cs, hcs⟩ := List.exists_cons_of_ne_nil hne
    have hc : isNameChar c = true := hall c (by simp [hcs])
    have hcs' : ∀ x ∈ cs, isNameChar x = true := fun x hx => hall x (by simp [hcs, hx])
    have hstop : ∀ x r, rest = x :: r → isNameChar x = false := by
      rintro x r rfl
      simpa [extendsName] using hnext
    have htake : (cs ++ rest).takeWhile isNameChar = cs := by
      rw [List.takeWhile_append_of_pos hcs']
      cases rest with
      | nil => simp
      | cons x r => simp [hstop x r rfl]
    have hdrop : (cs ++ rest).dropWhile isNameChar = rest := by
      rw [List.dropWhile_append_of_pos hcs']
      cases rest with
      | nil => simp
      | cons x r => simp [hstop x r rfl]
    rw [utf8Len_toSource_some rfl ⟨hne, hall⟩]
    simp only [Placeholder.toSource_eq, hcs, List.cons_append]
    rw [scanFrom_named pos buf out k _ hc, htake, hdrop, ← hcs, String.ofList_toList,
      Nat.add_assoc]

end Steps

end TableDdl.Template
