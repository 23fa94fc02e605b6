-- When reading template text fails: exactly at the first `%` that is neither doubled nor followed
-- by a kind letter, as an unknown placeholder at the byte offset of that `%`.
import TableDdl.Proofs.ScanRoundTrip

namespace TableDdl.Template

open String (utf8Len)

/-! ## The pairing scan -/

/-- Text that the pairing scan passes: each `%` is either doubled or followed by a kind letter. -/
inductive Paired : List Char → Prop
  | nil : Paired []
  | char {c : Char} {cs : List Char} : c ≠ '%' → Paired cs → Paired (c :: cs)
  | escape {cs : List Char} : Paired cs → Paired ('%' :: '%' :: cs)
  | hole {k : Kind} {cs : List Char} : Paired cs → Paired ('%' :: k.letter :: cs)

/-- What follows a `%` that the scan stops at: the end of the text, or a character that is
neither `%` nor a kind letter. -/
def Stray : List Char → Prop
  | [] => True
  | d :: _ => d ≠ '%' ∧ Kind.ofLetter? d = none

/-- The kind an unknown placeholder reports: the character after the `%`, or nothing at the end
of the text. -/
def strayKind : List Char → String
  | [] => ""
  | d :: _ => String.singleton d

theorem Paired.tail_of_ne {c : Char} {cs : List Char} (h : Paired (c :: cs)) (hc : c ≠ '%') :
    Paired cs := by
  cases h with
  | char _ h => exact h
  | escape _ => exact absurd rfl hc
  | hole _ => exact absurd rfl hc

/-- After a `%` the scan takes a second `%` or a kind letter. -/
theorem Paired.percent_cases {cs : List Char} (h : Paired ('%' :: cs)) :
    (∃ m, cs = '%' :: m ∧ Paired m) ∨ ∃ (k : Kind) (m : List Char), cs = k.letter :: m ∧ Paired m := by
  cases h with
  | char hc _ => exact absurd rfl hc
  | escape h => exact .inl ⟨_, rfl, h⟩
  | hole h => exact .inr ⟨_, _, rfl, h⟩

theorem not_stray_percent (m : List Char) : ¬Stray ('%' :: m) :=
  fun h => h.1 rfl

theorem not_stray_letter (k : Kind) (m : List Char) : ¬Stray (k.letter :: m) :=
  fun h => by simp [Stray] at h

/-- Text without `%` passes the scan, and so does text after it that passes. -/
theorem Paired.append_plain {l m : List Char} (hl : ∀ c ∈ l, c ≠ '%') (hm : Paired m) :
    Paired (l ++ m) := by
  induction l with
  | nil => exact hm
  | cons c l ih =>
    exact .char (hl c List.mem_cons_self) (ih fun x hx => hl x (List.mem_cons_of_mem c hx))

theorem Paired.append {l m : List Char} (hl : Paired l) (hm : Paired m) : Paired (l ++ m) := by
  induction hl with
  | nil => exact hm
  | char hc _ ih => exact .char hc ih
  | escape _ ih => exact .escape ih
  | hole _ ih => exact .hole ih

/-- The scan stops at no `%` before the first one it stops at. -/
theorem Paired.not_stray {pre rest : List Char} (hpre : Paired pre)
    (h : Paired (pre ++ '%' :: rest)) : ¬Stray rest := by
  induction hpre with
  | nil =>
    rcases Paired.percent_cases h with ⟨m, rfl, -⟩ | ⟨k, m, rfl, -⟩
    · exact not_stray_percent m
    · exact not_stray_letter k m
  | char hc _ ih => exact ih (Paired.tail_of_ne h hc)
  | escape _ ih =>
    simp only [List.cons_append] at h
    rcases Paired.percent_cases h with ⟨m, hm, h'⟩ | ⟨k, m, hm, -⟩
    · obtain ⟨-, rfl⟩ := List.cons.inj hm
      exact ih h'
    · exact absurd (List.cons.inj hm).1.symm (Kind.letter_ne_percent k)
  | @hole k _ _ ih =>
    simp only [List.cons_append] at h
    rcases Paired.percent_cases h with ⟨m, hm, -⟩ | ⟨k', m, hm, h'⟩
    · exact absurd (List.cons.inj hm).1 (Kind.letter_ne_percent k)
    · obtain ⟨-, rfl⟩ := List.cons.inj hm
      exact ih h'

/-- A text has at most one `%` at which the scan stops first. -/
theorem Paired.stray_unique {pre pre' rest rest' : List Char} (hpre : Paired pre)
    (hpre' : Paired pre') (heq : pre ++ '%' :: rest = pre' ++ '%' :: rest') (hs : Stray rest)
    (hs' : Stray rest') : pre = pre' ∧ rest = rest' := by
  suffices pre = pre' by
    subst this
    exact ⟨rfl, (List.cons.inj (List.append_cancel_left heq)).2⟩
  induction hpre generalizing pre' with
  | nil =>
    match pre', hpre', heq with
    | [], _, _ => rfl
    | c :: pre'', hpre', heq =>
      simp only [List.nil_append, List.cons_append, List.cons.injEq] at heq
      obtain ⟨rfl, rfl⟩ := heq
      exfalso
      rcases Paired.percent_cases hpre' with ⟨m, rfl, -⟩ | ⟨k, m, rfl, -⟩
      · exact not_stray_percent _ hs
      · exact not_stray_letter k _ hs
  | @char c cs hc _ ih =>
    match pre', hpre', heq with
    | [], _, heq =>
      simp only [List.nil_append, List.cons_append, List.cons.injEq] at heq
      exact absurd heq.1 hc
    | c' :: pre'', hpre', heq =>
      simp only [List.cons_append, List.cons.injEq] at heq
      obtain ⟨rfl, heq⟩ := heq
      rw [ih (Paired.tail_of_ne hpre' hc) heq]
  | @escape cs _ ih =>
    match pre', hpre', heq with
    | [], _, heq =>
      simp only [List.nil_append, List.cons_append, List.cons.injEq] at heq
      obtain ⟨-, rfl⟩ := heq
      exact absurd hs' (not_stray_percent _)
    | c' :: pre'', hpre', heq =>
      simp only [List.cons_append, List.cons.injEq] at heq
      obtain ⟨rfl, heq⟩ := heq
      rcases Paired.percent_cases hpre' with ⟨m, rfl, hm⟩ | ⟨k, m, rfl, -⟩
      · simp only [List.cons_append, List.cons.injEq, true_and] at heq
        rw [ih hm heq]
      · simp only [List.cons_append, List.cons.injEq] at heq
        exact absurd heq.1.symm (Kind.letter_ne_percent k)
  | @hole k cs _ ih =>
    match pre', hpre', heq with
    | [], _, heq =>
      simp only [List.nil_append, List.cons_append, List.cons.injEq] at heq
      obtain ⟨-, rfl⟩ := heq
      exact absurd hs' (not_stray_letter k _)
    | c' :: pre'', hpre', heq =>
      simp only [List.cons_append, List.cons.injEq] at heq
      obtain ⟨rfl, heq⟩ := heq
      rcases Paired.percent_cases hpre' with ⟨m, rfl, -⟩ | ⟨k', m, rfl, hm⟩
      · simp only [List.cons_append, List.cons.injEq] at heq
        exact absurd heq.1 (Kind.letter_ne_percent k)
      · simp only [List.cons_append, List.cons.injEq] at heq
        obtain ⟨hk, heq⟩ := heq
        rw [hk, ih hm heq]

/-! ## What the reader accepts -/

theorem paired_escapePercent (l : List Char) : Paired (escapePercent l) := by
  induction l with
  | nil => exact .nil
  | cons c l ih =>
    by_cases hc : c = '%'
    · subst hc
      exact .escape ih
    · rw [escapePercent_cons_of_ne l hc]
      exact .char hc ih

theorem paired_toSource {p : Placeholder} (hp : (Segment.hole p).WellFormed) :
    Paired p.toSource := by
  rw [Placeholder.toSource_eq]
  refine .hole ?_
  cases hn : p.name with
  | none => exact .nil
  | some n =>
    have hplain : ∀ c ∈ ':' :: n.toList, c ≠ '%' := by
      intro c hc
      rcases List.mem_cons.mp hc with rfl | hc
      · decide
      · exact ne_percent_of_isNameChar ((hp n hn).2 c hc)
    simpa using Paired.append_plain hplain .nil

theorem paired_sourceOf {segs : List Segment} (h : ∀ s ∈ segs, s.WellFormed) :
    Paired (sourceOf segs) := by
  induction segs with
  | nil => exact .nil
  | cons s segs ih =>
    rw [sourceOf_cons]
    refine .append ?_ (ih fun t ht => h t (List.mem_cons_of_mem s ht))
    cases s with
    | text t => exact paired_escapePercent t.toList
    | hole p => exact paired_toSource (h _ List.mem_cons_self)

/-- Text that the reader reads whole passes the pairing scan. -/
theorem paired_of_scan_ok {text : String} {segs : List Segment} (h : scan text = .ok segs) :
    Paired text.toList := by
  obtain ⟨hc, -, hs⟩ := scanFrom_ok h (Ready.init text.toList)
  simpa [hs] using paired_sourceOf hc.wellFormed

/-- A fault of the reader is an unknown placeholder at a `%` that the pairing scan stops at, after
text that it passes. -/
theorem scanFrom_error {cs : List Char} {pos : Nat} {buf : List Char} {out : List Segment}
    {e : Error} (h : scanFrom cs pos buf out = .error e) :
    ∃ pre rest, cs = pre ++ '%' :: rest ∧ Paired pre ∧ Stray rest ∧
      e = .unknownPlaceholder (strayKind rest) (pos + utf8Len pre) := by
  induction cs, pos, buf, out using scanFrom.induct with
  | case1 pos buf out =>
    rw [scanFrom_nil] at h
    cases h
  | case2 pos buf out =>
    rw [scanFrom_percent_end] at h
    cases h
    exact ⟨[], [], rfl, .nil, trivial, rfl⟩
  | case3 pos buf out more ih =>
    rw [scanFrom_escape] at h
    obtain ⟨pre, rest, rfl, hpre, hrest, rfl⟩ := ih h
    refine ⟨'%' :: '%' :: pre, rest, rfl, .escape hpre, hrest, ?_⟩
    simp only [String.utf8Len_cons, utf8Size_percent]
    congr 1
    omega
  | case4 pos buf out d more hd hk =>
    rw [scanFrom_unknown pos buf out more hd hk] at h
    cases h
    exact ⟨[], d :: more, rfl, .nil, ⟨hd, hk⟩, rfl⟩
  | case5 pos buf out d hd k hk n after hn name ih =>
    obtain rfl := Kind.eq_letter_of_ofLetter? hk
    rw [scanFrom_named pos buf out k after hn] at h
    obtain ⟨pre, rest, hpre_eq, hpre, hrest, rfl⟩ := ih h
    -- the name is plain text to the pairing scan
    have hplain : ∀ c ∈ ':' :: n :: after.takeWhile isNameChar, c ≠ '%' := by
      intro c hc
      rcases List.mem_cons.mp hc with rfl | hc
      · decide
      · exact ne_percent_of_isNameChar ((isName_takeWhile after hn).2 c (by simpa using hc))
    refine ⟨'%' :: k.letter :: ((':' :: n :: after.takeWhile isNameChar) ++ pre), rest, ?_,
      .hole (.append_plain hplain hpre), hrest, ?_⟩
    · have hafter : after = after.takeWhile isNameChar ++ pre ++ '%' :: rest := by
        rw [List.append_assoc, ← hpre_eq, List.takeWhile_append_dropWhile]
      conv_lhs => rw [hafter]
      simp
    · have htw : utf8Len (after.takeWhile isNameChar) = (after.takeWhile isNameChar).length :=
        utf8Len_of_isNameChar fun c hc => List.all_eq_true.mp List.all_takeWhile c hc
      simp only [name, List.length_cons, List.cons_append, String.utf8Len_cons,
        String.utf8Len_append, htw, utf8Size_of_isNameChar hn, utf8Size_percent, utf8Size_colon,
        Kind.utf8Size_letter]
      congr 1
      omega
  | case6 pos buf out d hd k hk n after hn ih =>
    obtain rfl := Kind.eq_letter_of_ofLetter? hk
    rw [scanFrom_unnamed pos buf out k (by simpa [extendsName] using hn)] at h
    obtain ⟨pre, rest, hpre_eq, hpre, hrest, rfl⟩ := ih h
    refine ⟨'%' :: k.letter :: pre, rest, by rw [hpre_eq]; rfl, .hole hpre, hrest, ?_⟩
    simp only [String.utf8Len_cons, utf8Size_percent, Kind.utf8Size_letter]
    congr 1
    omega
  | case7 pos buf out d hd k hk more hmore ih =>
    obtain rfl := Kind.eq_letter_of_ofLetter? hk
    have hnext : extendsName none more = false := extendsName_none_of_ne hmore
    rw [scanFrom_unnamed pos buf out k hnext] at h
    obtain ⟨pre, rest, rfl, hpre, hrest, rfl⟩ := ih h
    refine ⟨'%' :: k.letter :: pre, rest, rfl, .hole hpre, hrest, ?_⟩
    simp only [String.utf8Len_cons, utf8Size_percent, Kind.utf8Size_letter]
    congr 1
    omega
  | case8 pos buf out c rest hc ih =>
    rw [scanFrom_char pos buf out rest hc] at h
    obtain ⟨pre, rest', rfl, hpre, hrest, rfl⟩ := ih h
    refine ⟨c :: pre, rest', rfl, .char hc hpre, hrest, ?_⟩
    simp only [String.utf8Len_cons]
    congr 1
    omega

/-- Reading template text fails exactly when the pairing scan stops at a `%`, and then with an
unknown placeholder at the first such `%`: its kind is the character after it, or nothing at the
end of the text, and its position the byte offset of the `%`. -/
theorem scan_eq_error_iff {text : String} {e : Error} :
    scan text = .error e ↔ ∃ pre rest, text.toList = pre ++ '%' :: rest ∧ Paired pre ∧
      Stray rest ∧ e = .unknownPlaceholder (strayKind rest) (utf8Len pre) := by
  constructor
  · intro h
    simpa using scanFrom_error h
  · rintro ⟨pre, rest, htext, hpre, hrest, rfl⟩
    cases hs : scan text with
    | ok segs =>
      exact absurd hrest (hpre.not_stray (htext ▸ paired_of_scan_ok hs))
    | error e' =>
      obtain ⟨pre', rest', htext', hpre', hrest', rfl⟩ := scanFrom_error hs
      obtain ⟨rfl, rfl⟩ := hpre.stray_unique hpre' (htext.symm.trans htext') hrest hrest'
      simp

end TableDdl.Template
