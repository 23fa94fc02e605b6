-- Reading template text and writing segments back are inverse, on canonical segment lists. The
-- reading direction is the reader's invariant `Ready`, kept by each step; the writing direction is
-- an induction over the segments.
import Mathlib.Data.List.Chain
import TableDdl.Proofs.ScanSteps

namespace TableDdl.Template

open String (utf8Len)

/-! ## Offsets and canonical lists -/

/-- The byte offset of each placeholder's `%` when segments are written one after another from
byte offset `start`. -/
def holeOffsets : Nat → List Segment → List Nat
  | _, [] => []
  | start, .text s :: rest => holeOffsets (start + utf8Len (escapePercent s.toList)) rest
  | start, .hole p :: rest => start :: holeOffsets (start + utf8Len p.toSource) rest

/-- Every placeholder stands at the byte offset of its `%` in the written segments, counted from
`start`. -/
def PlacedFrom (start : Nat) (segs : List Segment) : Prop :=
  (holes segs).map (·.position) = holeOffsets start segs

/-- A segment as the reader gives it: a text is never empty, and a name is a name. -/
def Segment.WellFormed : Segment → Prop
  | .text s => s ≠ ""
  | .hole p => ∀ n, p.name = some n → IsName n

/-- Two segments that can stand side by side in what the reader gives: never two texts, and no
text after a placeholder that would have been read as part of it. -/
def Adjacent : Segment → Segment → Prop
  | .text _, .text _ => False
  | .hole p, .text s => extendsName p.name s.toList = false
  | _, .hole _ => True

/-- The segment lists that the reader gives. -/
structure Canonical (segs : List Segment) : Prop where
  wellFormed : ∀ s ∈ segs, s.WellFormed
  adjacent : segs.IsChain Adjacent

instance (start : Nat) (segs : List Segment) : Decidable (PlacedFrom start segs) :=
  inferInstanceAs (Decidable (_ = _))

instance : DecidablePred Segment.WellFormed
  | .text s => inferInstanceAs (Decidable (s ≠ ""))
  | .hole p =>
    match h : p.name with
    | none => isTrue (by simp [Segment.WellFormed, h])
    | some n => decidable_of_iff (IsName n) (by simp [Segment.WellFormed, h])

instance : ∀ s t : Segment, Decidable (Adjacent s t)
  | .text _, .text _ => isFalse id
  | .hole p, .text s => inferInstanceAs (Decidable (extendsName p.name s.toList = false))
  | .text _, .hole _ => isTrue trivial
  | .hole _, .hole _ => isTrue trivial

instance (segs : List Segment) : Decidable (Canonical segs) :=
  decidable_of_iff ((segs.all fun s => decide s.WellFormed) = true ∧ segs.IsChain Adjacent)
    ⟨fun ⟨hw, ha⟩ => ⟨by simpa using hw, ha⟩, fun h => ⟨by simpa using h.wellFormed, h.adjacent⟩⟩

@[simp]
theorem placedFrom_nil (start : Nat) : PlacedFrom start [] := rfl

theorem placedFrom_text_cons (start : Nat) (s : String) (rest : List Segment) :
    PlacedFrom start (.text s :: rest) ↔
      PlacedFrom (start + utf8Len (escapePercent s.toList)) rest := by
  simp [PlacedFrom, holes, holeOffsets]

theorem placedFrom_hole_cons (start : Nat) (p : Placeholder) (rest : List Segment) :
    PlacedFrom start (.hole p :: rest) ↔
      p.position = start ∧ PlacedFrom (start + utf8Len p.toSource) rest := by
  simp [PlacedFrom, holes, holeOffsets]

theorem placedFrom_append (start : Nat) (segs segs' : List Segment) :
    PlacedFrom start (segs ++ segs') ↔
      PlacedFrom start segs ∧ PlacedFrom (start + utf8Len (sourceOf segs)) segs' := by
  induction segs generalizing start with
  | nil => simp
  | cons s segs ih =>
    cases s with
    | text t =>
      simp only [List.cons_append, placedFrom_text_cons, ih, sourceOf_cons, String.utf8Len_append,
        Segment.toSource, Nat.add_assoc]
    | hole p =>
      simp only [List.cons_append, placedFrom_hole_cons, ih, sourceOf_cons, String.utf8Len_append,
        Segment.toSource, Nat.add_assoc, and_assoc]

theorem Canonical.nil : Canonical [] :=
  ⟨by simp, List.isChain_nil⟩

theorem canonical_cons {s : Segment} {rest : List Segment} :
    Canonical (s :: rest) ↔
      s.WellFormed ∧ (∀ t ∈ rest.head?, Adjacent s t) ∧ Canonical rest := by
  constructor
  · rintro ⟨hw, ha⟩
    obtain ⟨hhead, htail⟩ := List.isChain_cons.mp ha
    exact ⟨hw s List.mem_cons_self, hhead,
      ⟨fun t ht => hw t (List.mem_cons_of_mem s ht), htail⟩⟩
  · rintro ⟨hs, hhead, hw, ha⟩
    refine ⟨?_, List.isChain_cons.mpr ⟨hhead, ha⟩⟩
    rintro t (_ | ⟨_, ht⟩)
    · exact hs
    · exact hw t ht

/-- A placeholder with a good name can end any canonical list. -/
theorem Canonical.append_hole {segs : List Segment} {q : Placeholder} (hc : Canonical segs)
    (hq : (Segment.hole q).WellFormed) : Canonical (segs ++ [.hole q]) := by
  refine ⟨?_, List.isChain_append.mpr ⟨hc.adjacent, List.isChain_singleton _, ?_⟩⟩
  · intro s hs
    rcases List.mem_append.mp hs with hs | hs
    · exact hc.wellFormed s hs
    · rw [List.mem_singleton.mp hs]
      exact hq
  · intro x _ y hy
    simp only [List.head?_cons, Option.mem_def, Option.some.injEq] at hy
    subst hy
    cases x <;> trivial

/-- In a canonical list, the text after a placeholder cannot extend it, even read on into the
segments after that text. -/
theorem Canonical.extendsName_sourceOf {p : Placeholder} {rest : List Segment}
    (hc : Canonical (.hole p :: rest)) : extendsName p.name (sourceOf rest) = false := by
  obtain ⟨-, hadj, hrest⟩ := canonical_cons.mp hc
  cases rest with
  | nil => cases p.name <;> rfl
  | cons seg after =>
    cases seg with
    | hole q => simp [Segment.toSource, Placeholder.toSource_eq]
    | text s =>
      have hs : extendsName p.name s.toList = false := hadj _ rfl
      rw [sourceOf_cons, Segment.toSource, extendsName_escapePercent]
      obtain ⟨-, hnext, -⟩ := canonical_cons.mp hrest
      cases after with
      | nil => simpa using hs
      | cons seg' _ =>
        cases seg' with
        | hole q =>
          simpa [Segment.toSource, Placeholder.toSource_eq, extendsName_append_percent] using hs
        | text _ => exact absurd (hnext _ rfl) id

/-! ## The invariant of the reader -/

/-- The segments read so far, `out` (last first), end with a placeholder that the text after it,
`rest`, cannot extend; or nothing has been read. -/
def EndsWell : List Segment → List Char → Prop
  | [], _ => True
  | .hole p :: _, rest => extendsName p.name rest = false
  | .text _ :: _, _ => False

/-- What holds between two steps of the reader: `out` and the pending text `buf` have been read
(both last first), and `cs` is still to read from byte offset `pos`. -/
structure Ready (cs : List Char) (pos : Nat) (buf : List Char) (out : List Segment) : Prop where
  canonical : Canonical out.reverse
  placed : PlacedFrom 0 out.reverse
  offset : pos = utf8Len (sourceOf out.reverse ++ escapePercent buf.reverse)
  endsWell : EndsWell out (buf.reverse ++ cs)

theorem Ready.init (cs : List Char) : Ready cs 0 [] [] :=
  ⟨Canonical.nil, placedFrom_nil 0, rfl, trivial⟩

theorem placedFrom_flushText {buf : List Char} {out : List Segment}
    (h : PlacedFrom 0 out.reverse) : PlacedFrom 0 (flushText buf out).reverse := by
  by_cases hb : buf = []
  · simpa [hb] using h
  · rw [flushText_of_ne_nil out hb, List.reverse_cons, placedFrom_append]
    exact ⟨h, rfl⟩

/-- Closing the pending text keeps the segments canonical: the text is not empty, and the
placeholder before it could not be extended by it. -/
theorem canonical_flushText {buf cs : List Char} {out : List Segment}
    (hc : Canonical out.reverse) (he : EndsWell out (buf.reverse ++ cs)) :
    Canonical (flushText buf out).reverse := by
  by_cases hb : buf = []
  · simpa [hb] using hc
  · rw [flushText_of_ne_nil out hb, List.reverse_cons]
    refine ⟨?_, List.isChain_append.mpr ⟨hc.adjacent, List.isChain_singleton _, ?_⟩⟩
    · intro s hs
      rcases List.mem_append.mp hs with hs | hs
      · exact hc.wellFormed s hs
      · rw [List.mem_singleton.mp hs]
        simpa [Segment.WellFormed, String.ofList_eq_empty_iff] using hb
    · intro x hx y hy
      rw [List.getLast?_reverse] at hx
      rw [Option.mem_def, List.head?_cons, Option.some_inj] at hy
      subst hy
      match out, hx, he with
      | .hole p :: _, hx, he =>
        cases Option.some_inj.mp hx
        show extendsName p.name (String.ofList buf.reverse).toList = false
        rw [String.toList_ofList]
        cases h : extendsName p.name buf.reverse
        · rfl
        · simp [EndsWell, extendsName_append cs h] at he

section Steps

variable {pos : Nat} {buf : List Char} {out : List Segment}

theorem Ready.char {c : Char} {rest : List Char} (hc : c ≠ '%') (h : Ready (c :: rest) pos buf out) :
    Ready rest (pos + c.utf8Size) (c :: buf) out := by
  obtain ⟨hcan, hplaced, hoff, hends⟩ := h
  refine ⟨hcan, hplaced, ?_, ?_⟩
  · simp [hoff, escapePercent_cons_of_ne [] hc]
    omega
  · simpa using hends

theorem Ready.escape {rest : List Char} (h : Ready ('%' :: '%' :: rest) pos buf out) :
    Ready rest (pos + 2) ('%' :: buf) out := by
  obtain ⟨hcan, hplaced, hoff, hends⟩ := h
  refine ⟨hcan, hplaced, ?_, ?_⟩
  · simp [hoff, escapePercent]
    omega
  · cases out with
    | nil => trivial
    | cons seg _ =>
      cases seg with
      | hole p => simpa [EndsWell, extendsName_append_percent] using hends
      | text _ => exact hends.elim

/-- Reading a placeholder: the pending text is closed, and the placeholder stands at the current
offset. -/
theorem Ready.hole {q : Placeholder} {rest : List Char} (h : Ready (q.toSource ++ rest) pos buf out)
    (hpos : q.position = pos) (hq : (Segment.hole q).WellFormed)
    (hnext : extendsName q.name rest = false) :
    Ready rest (pos + utf8Len q.toSource) [] (.hole q :: flushText buf out) := by
  obtain ⟨hcan, hplaced, hoff, hends⟩ := h
  refine ⟨?_, ?_, ?_, hnext⟩
  · rw [List.reverse_cons]
    exact (canonical_flushText hcan hends).append_hole hq
  · rw [List.reverse_cons, placedFrom_append, sourceOf_reverse_flushText, ← hoff]
    exact ⟨placedFrom_flushText hplaced, by simp [placedFrom_hole_cons, hpos]⟩
  · simp [sourceOf_reverse_flushText, hoff, Segment.toSource]
    omega

/-- Reading a placeholder without a name: `%` and the letter, two bytes. -/
theorem Ready.unnamed {k : Kind} {rest : List Char}
    (h : Ready ('%' :: k.letter :: rest) pos buf out) (hnext : extendsName none rest = false) :
    Ready rest (pos + 2) [] (.hole ⟨k, none, pos⟩ :: flushText buf out) := by
  have hr := h.hole (q := ⟨k, none, pos⟩) rfl (by simp [Segment.WellFormed]) hnext
  rwa [utf8Len_toSource_none rfl] at hr

/-- At the end of the text, closing the pending text gives a canonical, placed list. -/
theorem Ready.finish (h : Ready [] pos buf out) :
    Canonical (flushText buf out).reverse ∧ PlacedFrom 0 (flushText buf out).reverse :=
  ⟨canonical_flushText h.canonical h.endsWell, placedFrom_flushText h.placed⟩

end Steps

/-! ## Reading, then writing -/

/-- Whatever the reader gives is canonical and placed, and writes back to what it read. -/
theorem scanFrom_ok {cs : List Char} {pos : Nat} {buf : List Char} {out segs : List Segment}
    (h : scanFrom cs pos buf out = .ok segs) (hr : Ready cs pos buf out) :
    Canonical segs ∧ PlacedFrom 0 segs ∧
      sourceOf segs = sourceOf out.reverse ++ escapePercent buf.reverse ++ cs := by
  induction cs, pos, buf, out using scanFrom.induct with
  | case1 pos buf out =>
    rw [scanFrom_nil] at h
    cases h
    exact ⟨hr.finish.1, hr.finish.2, by simp [sourceOf_reverse_flushText]⟩
  | case2 pos buf out =>
    rw [scanFrom_percent_end] at h
    cases h
  | case3 pos buf out more ih =>
    rw [scanFrom_escape] at h
    obtain ⟨hc, hp, hs⟩ := ih h hr.escape
    exact ⟨hc, hp, by simp [hs, escapePercent]⟩
  | case4 pos buf out d more hd hk =>
    rw [scanFrom_unknown pos buf out more hd hk] at h
    cases h
  | case5 pos buf out d hd k hk n after hn name ih =>
    obtain rfl := Kind.eq_letter_of_ofLetter? hk
    rw [scanFrom_named pos buf out k after hn] at h
    -- the reader takes the longest run of name characters as the name
    have hname := isName_takeWhile after hn
    have hlen := utf8Len_toSource_some (p := ⟨k, _, pos⟩) rfl hname
    rw [String.toList_ofList] at hlen
    rw [← toSource_takeWhile pos k n after] at hr ⊢
    have hr' := hr.hole rfl (fun _ h => Option.some_inj.mp h ▸ hname)
      (extendsName_dropWhile _ after)
    rw [hlen, ← Nat.add_assoc] at hr'
    obtain ⟨hc, hp, hs⟩ := ih h hr'
    exact ⟨hc, hp, by simp [hs, name, sourceOf_reverse_flushText, Segment.toSource]⟩
  | case6 pos buf out d hd k hk n after hn ih =>
    obtain rfl := Kind.eq_letter_of_ofLetter? hk
    have hnext : extendsName none (':' :: n :: after) = false := by
      simpa [extendsName] using hn
    rw [scanFrom_unnamed pos buf out k hnext] at h
    obtain ⟨hc, hp, hs⟩ := ih h (hr.unnamed hnext)
    exact ⟨hc, hp, by simp [hs, sourceOf_reverse_flushText, Segment.toSource,
      Placeholder.toSource_eq]⟩
  | case7 pos buf out d hd k hk more hmore ih =>
    obtain rfl := Kind.eq_letter_of_ofLetter? hk
    -- nothing after the letter has the shape `:` and a character
    have hnext : extendsName none more = false := extendsName_none_of_ne hmore
    rw [scanFrom_unnamed pos buf out k hnext] at h
    obtain ⟨hc, hp, hs⟩ := ih h (hr.unnamed hnext)
    exact ⟨hc, hp, by simp [hs, sourceOf_reverse_flushText, Segment.toSource,
      Placeholder.toSource_eq]⟩
  | case8 pos buf out c rest hc ih =>
    rw [scanFrom_char pos buf out rest hc] at h
    obtain ⟨hcan, hp, hs⟩ := ih h (hr.char hc)
    exact ⟨hcan, hp, by simp [hs, escapePercent_cons_of_ne [] hc]⟩

/-! ## Writing, then reading -/

/-- A canonical, placed list is read back from its written form, after what was read before. -/
theorem scanFrom_sourceOf {segs : List Segment} (hc : Canonical segs) {pos : Nat}
    {buf : List Char} {out : List Segment} (hp : PlacedFrom pos segs)
    (hbuf : buf = [] ∨ ∀ s ∈ segs.head?, ∃ p, s = .hole p) :
    scanFrom (sourceOf segs) pos buf out = .ok ((flushText buf out).reverse ++ segs) := by
  induction segs generalizing pos buf out with
  | nil => simp [scanFrom_nil]
  | cons s rest ih =>
    obtain ⟨hs, hadj, hrest⟩ := canonical_cons.mp hc
    cases s with
    | text t =>
      -- a text is read into the pending text, which the next placeholder or the end closes
      have hb : buf = [] := hbuf.resolve_right (by simp)
      subst hb
      have hnext : ∀ s ∈ rest.head?, ∃ p, s = .hole p := by
        intro s hs'
        cases s with
        | hole p => exact ⟨p, rfl⟩
        | text _ => exact absurd (hadj _ hs') id
      rw [placedFrom_text_cons] at hp
      rw [sourceOf_cons, Segment.toSource, scanFrom_escapePercent, ih hrest hp (.inr hnext),
        List.append_nil, flushText_of_ne_nil out (by simpa [Segment.WellFormed] using hs)]
      simp
    | hole p =>
      obtain ⟨hpos, hp⟩ := (placedFrom_hole_cons _ _ _).mp hp
      subst hpos
      rw [sourceOf_cons, Segment.toSource, scanFrom_toSource _ _ _ hs hc.extendsName_sourceOf,
        ih hrest hp (.inl rfl)]
      simp

/-- Reading template text succeeds with a segment list exactly when that list is canonical, its
placeholders stand at the byte offsets of their `%`, and it writes back to the text. -/
theorem scan_eq_ok_iff {text : String} {segs : List Segment} :
    scan text = .ok segs ↔ Canonical segs ∧ PlacedFrom 0 segs ∧ sourceOf segs = text.toList := by
  constructor
  · intro h
    simpa using scanFrom_ok h (Ready.init text.toList)
  · rintro ⟨hc, hp, hs⟩
    rw [scan, ← hs, scanFrom_sourceOf hc hp (.inl rfl)]
    simp

end TableDdl.Template
