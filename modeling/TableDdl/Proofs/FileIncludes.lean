-- Template files and their includes, over a file system given as a map from paths to entries. A
-- file compiles exactly when it reads and every include loads, its segments then the main file's
-- with each include spliced in; otherwise the first fault in source order is reported.
import TableDdl.Template.Compile
import TableDdl.Proofs.ScanSteps

namespace TableDdl.Template

variable (fs : String → Id Entry)

/-! ## Reading a file -/

/-- A path that holds no regular file is not found, and a regular file whose text cannot be read
fails with the fault of its reading. -/
theorem readText_run (path : String) :
    (readText fs path).run.run =
      if (fs path).isFile then
        match (fs path).text with
        | .ok s => .ok s
        | .error f => .error (.fileRead path f.message)
      else .error (.fileNotFound path) := by
  unfold readText
  cases fs path <;> rfl

/-- The two faults of a read: no regular file at the path, or the fault of a regular file's text,
a refused reading or bytes that are not UTF-8. -/
theorem readText_eq_error_iff (path : String) (e : Error) :
    (readText fs path).run.run = .error e ↔
      ((fs path).isFile = false ∧ e = .fileNotFound path) ∨
        ((fs path).isFile = true ∧
          ∃ f, (fs path).text = .error f ∧ e = .fileRead path f.message) := by
  rw [readText_run]
  cases fs path with
  | file bytes =>
    cases hs : String.fromUTF8? bytes with
    | none => simp [Entry.isFile, Entry.text, hs, eq_comm]
    | some s => simp [Entry.isFile, Entry.text, hs]
  | unreadable f => simp [Entry.isFile, Entry.text, eq_comm]
  | dir => simp [Entry.isFile, eq_comm]
  | absent => simp [Entry.isFile, eq_comm]

/-- A regular file that the system refuses to read fails with the system's fault: it is there,
so it is never reported as not found. -/
theorem readText_unreadable {path : String} {f : FileFault} (h : fs path = .unreadable f) :
    (readText fs path).run.run = .error (.fileRead path f.message) := by
  rw [readText_run, h]
  rfl

/-! ## Loading an include -/

/-- The include `name` of a template in `dir` loads as `segs`: its file reads as text, the text
reads as `segs`, and none of them is an include. -/
def Loads (dir name : String) (segs : List Segment) : Prop :=
  ∃ text, (readText fs (Path.join dir (name ++ "." ++ fileExtension))).run.run = .ok text ∧
    scan text = .ok segs ∧ ∀ p ∈ holes segs, p.kind ≠ .include

/-- Why the include `p` of a template in `dir` does not load, in the order of the checks: it has
no name; its file is no regular file or not UTF-8; the file's text has an unknown placeholder;
the file includes again, reported by the name of its first include (`firstInclude?`). -/
def IncludeFault (dir : String) (p : Placeholder) (e : Error) : Prop :=
  match p.name with
  | none => e = .missingIncludeName p.position
  | some name =>
    (readText fs (Path.join dir (name ++ "." ++ fileExtension))).run.run = .error e ∨
      ∃ text, (readText fs (Path.join dir (name ++ "." ++ fileExtension))).run.run = .ok text ∧
        (scan text = .error e ∨
          ∃ segs nested, scan text = .ok segs ∧ firstInclude? segs = some nested ∧
            e = .nestedInclude nested)

theorem firstInclude?_eq_none_iff (segs : List Segment) :
    firstInclude? segs = none ↔ ∀ p ∈ holes segs, p.kind ≠ .include := by
  simp [firstInclude?, List.find?_eq_none]

/-- The include reported is the first include among the placeholders. -/
theorem firstInclude?_eq_some_iff (segs : List Segment) (name : String) :
    firstInclude? segs = some name ↔
      ∃ pre q post, holes segs = pre ++ q :: post ∧ (∀ q' ∈ pre, q'.kind ≠ .include) ∧
        q.kind = .include ∧ name = q.name.getD "" := by
  simp only [firstInclude?, Option.map_eq_some_iff, List.find?_eq_some_iff_append,
    decide_eq_true_eq, Bool.not_eq_true', decide_eq_false_iff_not]
  constructor
  · rintro ⟨q, ⟨hq, pre, post, hsegs, hpre⟩, rfl⟩
    exact ⟨pre, q, post, hsegs, hpre, hq, rfl⟩
  · rintro ⟨pre, q, post, hsegs, hpre, hq, rfl⟩
    exact ⟨q, ⟨hq, pre, post, hsegs, hpre⟩, rfl⟩

section Load

variable (dir : String)

theorem loadInclude_run (name : String) :
    (loadInclude fs dir name).run.run =
      match (readText fs (Path.join dir (name ++ "." ++ fileExtension))).run.run with
      | .error e => .error e
      | .ok text =>
        match scan text with
        | .error e => .error e
        | .ok segs =>
          match firstInclude? segs with
          | some nested => .error (.nestedInclude nested)
          | none => .ok segs := by
  simp only [loadInclude, ExceptT.run_bind]
  cases (readText fs (Path.join dir (name ++ "." ++ fileExtension))).run with
  | error e => rfl
  | ok text =>
    cases scan text with
    | error e => rfl
    | ok segs => cases firstInclude? segs <;> rfl

theorem loadInclude_eq_ok_iff (name : String) (segs : List Segment) :
    (loadInclude fs dir name).run.run = .ok segs ↔ Loads fs dir name segs := by
  rw [loadInclude_run, Loads]
  cases (readText fs (Path.join dir (name ++ "." ++ fileExtension))).run.run with
  | error e => simp
  | ok text =>
    simp only [Except.ok.injEq, exists_eq_left']
    cases scan text with
    | error e => simp
    | ok segs' =>
      simp only [Except.ok.injEq]
      cases hf : firstInclude? segs' with
      | some nested =>
        simp only [reduceCtorEq, false_iff, not_and]
        rintro rfl hall
        simp [(firstInclude?_eq_none_iff _).mpr hall] at hf
      | none =>
        constructor
        · rintro ⟨⟩
          exact ⟨rfl, (firstInclude?_eq_none_iff _).mp hf⟩
        · rintro ⟨rfl, -⟩
          rfl

/-- A named include fails to load exactly as `IncludeFault` says. -/
theorem loadInclude_eq_error_iff {p : Placeholder} {name : String} (hn : p.name = some name)
    (e : Error) : (loadInclude fs dir name).run.run = .error e ↔ IncludeFault fs dir p e := by
  rw [loadInclude_run, IncludeFault, hn]
  dsimp only
  cases (readText fs (Path.join dir (name ++ "." ++ fileExtension))).run.run with
  | error e' => simp
  | ok text =>
    simp only [Except.ok.injEq, exists_eq_left', reduceCtorEq, false_or]
    cases scan text with
    | error e' => simp
    | ok segs =>
      dsimp only
      cases hf : firstInclude? segs <;> simp [hf, eq_comm]

/-- An include whose loading fails loads as nothing. -/
theorem not_loads_of_error {name : String} {e : Error}
    (hl : (loadInclude fs dir name).run.run = .error e) (inc : List Segment) :
    ¬Loads fs dir name inc := by
  intro hinc
  rw [(loadInclude_eq_ok_iff fs dir name inc).mpr hinc] at hl
  cases hl

end Load

/-! ## Splicing the includes in -/

/-- `out` is `segs` with each include replaced, in place, by the segments its name loads as
(`loads`); every other segment is kept as it is, position included. -/
inductive Spliced (loads : String → List Segment → Prop) : List Segment → List Segment → Prop
  | nil : Spliced loads [] []
  | text {s : String} {segs out : List Segment} :
      Spliced loads segs out → Spliced loads (.text s :: segs) (.text s :: out)
  | hole {p : Placeholder} {segs out : List Segment} : p.kind ≠ .include →
      Spliced loads segs out → Spliced loads (.hole p :: segs) (.hole p :: out)
  | load {p : Placeholder} {name : String} {inc segs out : List Segment} :
      p.kind = .include → p.name = some name → loads name inc → Spliced loads segs out →
      Spliced loads (.hole p :: segs) (inc ++ out)

/-- The first include among `segs` that does not load fails with `e`, and every include before
it loads. -/
def FirstFault (dir : String) (segs : List Segment) (e : Error) : Prop :=
  ∃ pre p post out, segs = pre ++ .hole p :: post ∧ p.kind = .include ∧
    Spliced (Loads fs dir) pre out ∧ IncludeFault fs dir p e

section Splice

variable {loads : String → List Segment → Prop}

theorem spliced_text_cons_iff {s : String} {segs out : List Segment} :
    Spliced loads (.text s :: segs) out ↔ ∃ out', Spliced loads segs out' ∧ out = .text s :: out' := by
  constructor
  · rintro (_ | ⟨h⟩)
    exact ⟨_, h, rfl⟩
  · rintro ⟨out', h, rfl⟩
    exact .text h

theorem spliced_hole_cons_iff {p : Placeholder} {segs out : List Segment}
    (hp : p.kind ≠ .include) :
    Spliced loads (.hole p :: segs) out ↔ ∃ out', Spliced loads segs out' ∧ out = .hole p :: out' := by
  constructor
  · rintro (_ | _ | ⟨_, h⟩ | ⟨hk⟩)
    · exact ⟨_, h, rfl⟩
    · exact absurd hk hp
  · rintro ⟨out', h, rfl⟩
    exact .hole hp h

theorem spliced_include_cons_iff {p : Placeholder} {segs out : List Segment}
    (hp : p.kind = .include) :
    Spliced loads (.hole p :: segs) out ↔
      ∃ name inc, p.name = some name ∧ loads name inc ∧
        ∃ out', Spliced loads segs out' ∧ out = inc ++ out' := by
  constructor
  · rintro (_ | _ | ⟨hk⟩ | ⟨_, hn, hl, h⟩)
    · exact absurd hp hk
    · exact ⟨_, _, hn, hl, _, h, rfl⟩
  · rintro ⟨name, inc, hn, hl, out', h, rfl⟩
    exact .load hp hn hl h

/-- What splicing gives holds no include, when no loaded file holds one. -/
theorem Spliced.holes_ne_include {segs out : List Segment} (h : Spliced loads segs out)
    (hl : ∀ name inc, loads name inc → ∀ p ∈ holes inc, p.kind ≠ .include) :
    ∀ p ∈ holes out, p.kind ≠ .include := by
  induction h with
  | nil => simp [holes]
  | text _ ih => simpa [holes] using ih
  | hole hp _ ih =>
    intro q hq
    rcases List.mem_cons.mp hq with rfl | hq
    · exact hp
    · exact ih q hq
  | load _ _ hinc _ ih =>
    intro q hq
    rcases List.mem_append.mp ((holes_append _ _) ▸ hq) with hq | hq
    · exact hl _ _ hinc q hq
    · exact ih q hq

end Splice

theorem map_eq_ok_iff {ε α β : Type} {x : Except ε α} {f : α → β} {b : β} :
    x.map f = .ok b ↔ ∃ a, x = .ok a ∧ b = f a := by
  cases x <;> simp [Except.map, eq_comm]

theorem map_eq_error_iff {ε α β : Type} {x : Except ε α} {f : α → β} {e : ε} :
    x.map f = .error e ↔ x = .error e := by
  cases x <;> simp [Except.map]

section SpliceSteps

variable (dir : String)

theorem spliceIncludes_nil : (spliceIncludes fs dir []).run.run = .ok [] := rfl

theorem spliceIncludes_text (s : String) (rest : List Segment) :
    (spliceIncludes fs dir (.text s :: rest)).run.run =
      ((spliceIncludes fs dir rest).run.run).map (.text s :: ·) := by
  simp only [spliceIncludes, ExceptT.run_bind]
  cases (spliceIncludes fs dir rest).run <;> rfl

theorem spliceIncludes_hole {p : Placeholder} (rest : List Segment) (hp : p.kind ≠ .include) :
    (spliceIncludes fs dir (.hole p :: rest)).run.run =
      ((spliceIncludes fs dir rest).run.run).map (.hole p :: ·) := by
  simp only [spliceIncludes, hp, if_false, ExceptT.run_bind]
  cases (spliceIncludes fs dir rest).run <;> rfl

theorem spliceIncludes_unnamed {p : Placeholder} (rest : List Segment) (hp : p.kind = .include)
    (hn : p.name = none) :
    (spliceIncludes fs dir (.hole p :: rest)).run.run = .error (.missingIncludeName p.position) := by
  simp only [spliceIncludes, hp, if_true, hn]
  rfl

theorem spliceIncludes_named {p : Placeholder} {name : String} (rest : List Segment)
    (hp : p.kind = .include) (hn : p.name = some name) :
    (spliceIncludes fs dir (.hole p :: rest)).run.run =
      match (loadInclude fs dir name).run.run with
      | .error e => .error e
      | .ok inc => ((spliceIncludes fs dir rest).run.run).map (inc ++ ·) := by
  simp only [spliceIncludes, hp, if_true, hn, ExceptT.run_bind]
  cases (loadInclude fs dir name).run with
  | error e => rfl
  | ok inc => cases (spliceIncludes fs dir rest).run <;> rfl

end SpliceSteps

section Faults

variable (dir : String)

theorem not_firstFault_nil (e : Error) : ¬FirstFault fs dir [] e := by
  rintro ⟨pre, p, post, out, h, -⟩
  simp at h

/-- Text never fails, so the first fault lies after it. -/
theorem firstFault_text_cons (t : String) (rest : List Segment) (e : Error) :
    FirstFault fs dir (.text t :: rest) e ↔ FirstFault fs dir rest e := by
  constructor
  · rintro ⟨pre, p, post, out, heq, hk, hpre, hf⟩
    rcases List.cons_eq_append_iff.mp heq with ⟨-, heq'⟩ | ⟨pre', rfl, rfl⟩
    · simp at heq'
    · obtain ⟨out', hpre', -⟩ := spliced_text_cons_iff.mp hpre
      exact ⟨pre', p, post, out', rfl, hk, hpre', hf⟩
  · rintro ⟨pre, p, post, out, rfl, hk, hpre, hf⟩
    exact ⟨.text t :: pre, p, post, .text t :: out, rfl, hk, .text hpre, hf⟩

/-- A placeholder other than an include never fails either. -/
theorem firstFault_hole_cons {p : Placeholder} (rest : List Segment) (hp : p.kind ≠ .include)
    (e : Error) : FirstFault fs dir (.hole p :: rest) e ↔ FirstFault fs dir rest e := by
  constructor
  · rintro ⟨pre, q, post, out, heq, hk, hpre, hf⟩
    rcases List.cons_eq_append_iff.mp heq with ⟨-, heq'⟩ | ⟨pre', rfl, rfl⟩
    · -- the placeholder itself would be the fault, but it is no include
      obtain ⟨⟨⟩, -⟩ := List.cons.inj heq'
      exact absurd hk hp
    · obtain ⟨out', hpre', -⟩ := (spliced_hole_cons_iff hp).mp hpre
      exact ⟨pre', q, post, out', rfl, hk, hpre', hf⟩
  · rintro ⟨pre, q, post, out, rfl, hk, hpre, hf⟩
    exact ⟨.hole p :: pre, q, post, .hole p :: out, rfl, hk, .hole hp hpre, hf⟩

/-- An include that loads does not fail, so the first fault lies after it. -/
theorem firstFault_load_cons {p : Placeholder} {name : String} {inc : List Segment}
    (rest : List Segment) (hp : p.kind = .include) (hn : p.name = some name)
    (hl : Loads fs dir name inc) (e : Error) :
    FirstFault fs dir (.hole p :: rest) e ↔ FirstFault fs dir rest e := by
  constructor
  · rintro ⟨pre, q, post, out, heq, hk, hpre, hf⟩
    rcases List.cons_eq_append_iff.mp heq with ⟨-, heq'⟩ | ⟨pre', rfl, rfl⟩
    · -- the include itself would be the fault, but it loads
      obtain ⟨⟨⟩, -⟩ := List.cons.inj heq'
      exact absurd hl (not_loads_of_error fs dir ((loadInclude_eq_error_iff fs dir hn e).mpr hf) inc)
    · obtain ⟨_, _, _, _, out', hpre', -⟩ := (spliced_include_cons_iff hp).mp hpre
      exact ⟨pre', q, post, out', rfl, hk, hpre', hf⟩
  · rintro ⟨pre, q, post, out, rfl, hk, hpre, hf⟩
    exact ⟨.hole p :: pre, q, post, inc ++ out, rfl, hk, .load hp hn hl hpre, hf⟩

/-- An include that does not load is the first fault, and fails as `IncludeFault` says. -/
theorem firstFault_fault_cons {p : Placeholder} (rest : List Segment) (hp : p.kind = .include)
    (hnot : ∀ name inc, p.name = some name → ¬Loads fs dir name inc) (e : Error) :
    FirstFault fs dir (.hole p :: rest) e ↔ IncludeFault fs dir p e := by
  constructor
  · rintro ⟨pre, q, post, out, heq, hk, hpre, hf⟩
    rcases List.cons_eq_append_iff.mp heq with ⟨-, heq'⟩ | ⟨pre', rfl, rfl⟩
    · obtain ⟨⟨⟩, -⟩ := List.cons.inj heq'
      exact hf
    · -- an include before the fault loads, and this one does not
      obtain ⟨name, inc, hn, hl, -⟩ := (spliced_include_cons_iff hp).mp hpre
      exact absurd hl (hnot name inc hn)
  · intro hf
    exact ⟨[], p, rest, [], rfl, hp, .nil, hf⟩

/-- Splicing succeeds exactly with the spliced list. -/
theorem spliceIncludes_eq_ok_iff (segs out : List Segment) :
    (spliceIncludes fs dir segs).run.run = .ok out ↔ Spliced (Loads fs dir) segs out := by
  induction segs generalizing out with
  | nil =>
    rw [spliceIncludes_nil, Except.ok.injEq]
    constructor
    · rintro rfl
      exact .nil
    · rintro ⟨⟩
      rfl
  | cons s rest ih =>
    cases s with
    | text t => simp only [spliceIncludes_text, map_eq_ok_iff, spliced_text_cons_iff, ih]
    | hole p =>
      by_cases hp : p.kind = .include
      · rw [spliced_include_cons_iff hp]
        cases hn : p.name with
        | none => simp [spliceIncludes_unnamed fs dir rest hp hn]
        | some name =>
          rw [spliceIncludes_named fs dir rest hp hn]
          cases hl : (loadInclude fs dir name).run.run with
          | error e =>
            simp only [reduceCtorEq, false_iff, not_exists, not_and, Option.some.injEq]
            rintro _ inc rfl hinc
            exact absurd hinc (not_loads_of_error fs dir hl inc)
          | ok inc =>
            simp only [map_eq_ok_iff, ih, Option.some.injEq, exists_and_left, exists_eq_left']
            simp only [← loadInclude_eq_ok_iff, hl, Except.ok.injEq, exists_eq_left']
      · simp only [spliceIncludes_hole fs dir rest hp, map_eq_ok_iff, spliced_hole_cons_iff hp, ih]

/-- Splicing fails exactly at the first include that does not load. -/
theorem spliceIncludes_eq_error_iff (segs : List Segment) (e : Error) :
    (spliceIncludes fs dir segs).run.run = .error e ↔ FirstFault fs dir segs e := by
  induction segs with
  | nil => simp [spliceIncludes_nil, not_firstFault_nil]
  | cons s rest ih =>
    cases s with
    | text t => rw [spliceIncludes_text, map_eq_error_iff, ih, firstFault_text_cons]
    | hole p =>
      by_cases hp : p.kind = .include
      · cases hn : p.name with
        | none =>
          rw [spliceIncludes_unnamed fs dir rest hp hn,
            firstFault_fault_cons fs dir rest hp (by simp [hn]), IncludeFault, hn, Except.error.injEq]
          exact eq_comm
        | some name =>
          rw [spliceIncludes_named fs dir rest hp hn]
          cases hl : (loadInclude fs dir name).run.run with
          | error e' =>
            -- this include is the first fault: what failed to load it is the error
            have hnot : ∀ n inc, p.name = some n → ¬Loads fs dir n inc := by
              rintro n inc hn'
              rw [hn, Option.some.injEq] at hn'
              subst hn'
              exact not_loads_of_error fs dir hl inc
            rw [firstFault_fault_cons fs dir rest hp hnot, ← loadInclude_eq_error_iff fs dir hn, hl]
          | ok inc =>
            rw [map_eq_error_iff, ih,
              firstFault_load_cons fs dir rest hp hn ((loadInclude_eq_ok_iff fs dir name inc).mp hl)]
      · rw [spliceIncludes_hole fs dir rest hp, map_eq_error_iff, ih, firstFault_hole_cons fs dir rest hp]

end Faults

/-! ## Reading a template file -/

/-- Reading a template file is reading, scanning and then splicing, with the first error kept. -/
theorem ofFile_run (path : String) :
    (ofFile fs path).run.run = match (readText fs path).run.run with
      | .error e => .error e
      | .ok text => match scan text with
        | .error e => .error e
        | .ok segs => ((spliceIncludes fs ((Path.parent path).getD "") segs).run.run).map Template.mk := by
  simp only [ofFile, ExceptT.run_bind, Id.run_bind]
  cases (readText fs path).run with
  | error e => rfl
  | ok text =>
    dsimp only [Id.run]
    cases scan text with
    | error e => rfl
    | ok segs =>
      simp only [ExceptT.run_bind]
      cases (spliceIncludes fs ((Path.parent path).getD "") segs).run <;> rfl

/-- A template file loads exactly when the file reads and scans and each of its includes, looked
up beside it, reads, scans and includes nothing more. The result is the file's segments with each
include replaced by the included segments, each keeping the positions of its own file, so no
include is left in it. Otherwise the error is the first of: the file's read error, its scan error,
and the fault of its first include that does not load. -/
theorem ofFile_splices_includes (path : String) :
    (∀ t, (ofFile fs path).run.run = .ok t ↔ ∃ text segs, (readText fs path).run.run = .ok text ∧
        scan text = .ok segs ∧ Spliced (Loads fs ((Path.parent path).getD "")) segs t.segments) ∧
    (∀ e, (ofFile fs path).run.run = .error e ↔ (readText fs path).run.run = .error e ∨
        ∃ text, (readText fs path).run.run = .ok text ∧ (scan text = .error e ∨
          ∃ segs, scan text = .ok segs ∧ FirstFault fs ((Path.parent path).getD "") segs e)) ∧
    ∀ t, (ofFile fs path).run.run = .ok t → ∀ p ∈ t.placeholders, p.kind ≠ .include := by
  set dir := (Path.parent path).getD ""
  have hok : ∀ t, (ofFile fs path).run.run = .ok t ↔ ∃ text segs,
      (readText fs path).run.run = .ok text ∧ scan text = .ok segs ∧
        Spliced (Loads fs dir) segs t.segments := by
    intro t
    rcases hr : (readText fs path).run.run with e | text
    · simp [ofFile_run, hr]
    rcases hs : scan text with e | segs
    · simp [ofFile_run, hr, hs]
    simp only [ofFile_run, hr, hs, map_eq_ok_iff, spliceIncludes_eq_ok_iff, Except.ok.injEq,
      exists_eq_left', exists_and_left, dir]
    exact ⟨fun ⟨out, h, e⟩ => e ▸ h, fun h => ⟨t.segments, h, rfl⟩⟩
  refine ⟨hok, ?_, ?_⟩
  · intro e
    rcases hr : (readText fs path).run.run with e' | text
    · simp [ofFile_run, hr]
    rcases hs : scan text with e' | segs
    · simp [ofFile_run, hr, hs]
    simp [ofFile_run, hr, hs, map_eq_error_iff, spliceIncludes_eq_error_iff, dir]
  · intro t ht
    obtain ⟨text, segs, -, -, hsp⟩ := (hok t).mp ht
    refine hsp.holes_ne_include ?_
    rintro name inc ⟨-, -, -, hinc⟩
    exact hinc

end TableDdl.Template
