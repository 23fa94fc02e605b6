-- Positional rendering without its loop: the first placeholder that fails decides the error, and
-- otherwise the text is the template's with each placeholder replaced by what its argument renders
-- to, NUL characters dropped.
import TableDdl.Proofs.FileIncludes

namespace TableDdl.Template

/-! ## Nulls in values -/

/-- A value holds a null: it is one, or it is a list with an item that holds one. -/
inductive Value.HasNull : Value → Prop
  | null : Value.HasNull .null
  | item {items : List Value} {v : Value} : v ∈ items → v.HasNull → Value.HasNull (.list items)

namespace Value

theorem hasNull_list_iff {items : List Value} :
    (Value.list items).HasNull ↔ ∃ v ∈ items, v.HasNull := by
  constructor
  · rintro (_ | ⟨hv, h⟩)
    exact ⟨_, hv, h⟩
  · rintro ⟨v, hv, h⟩
    exact .item hv h

mutual

/-- A value has no identifier exactly when it holds a null. -/
theorem identifier?_eq_none_iff : (v : Value) → v.identifier? = none ↔ v.HasNull
  | .null => iff_of_true rfl .null
  | .bool _ | .int _ | .float _ | .text _ | .time _ =>
    iff_of_false (by simp [identifier?]) (fun h => nomatch h)
  | .list items => by
    rw [identifier?, Option.map_eq_none_iff, identifiers?_eq_none_iff items, hasNull_list_iff]

theorem identifiers?_eq_none_iff :
    (items : List Value) → identifiers? items = none ↔ ∃ v ∈ items, v.HasNull
  | [] => by simp [identifiers?]
  | v :: rest => by
    have hv := identifier?_eq_none_iff v
    have hrest := identifiers?_eq_none_iff rest
    -- the items are named left to right, and the first that has no name stops the list
    cases h₁ : v.identifier? <;> cases h₂ : identifiers? rest <;>
      simp_all [identifiers?]

end

instance : DecidablePred HasNull := fun v =>
  decidable_of_iff _ (identifier?_eq_none_iff v)

end Value

/-! ## One placeholder -/

/-- What a placeholder puts in the text for a value when it does not fail: the value as an
identifier, as a template literal or as raw text, by the placeholder's kind. -/
def Placeholder.fill (p : Placeholder) (v : Value) : String :=
  match p.kind with
  | .ident => v.identifier?.getD ""
  | .literal => v.templateLiteral
  | .raw => v.raw
  | .include => ""

/-- Outside an include, a placeholder fails only as an identifier whose value holds a null. -/
theorem renderHole_eq {p : Placeholder} (hp : p.kind ≠ .include) (v : Value) :
    renderHole p v =
      if p.kind = .ident ∧ v.HasNull then .error (.nullIdentifier p.position)
      else .ok (p.fill v) := by
  unfold renderHole Placeholder.fill
  cases hk : p.kind with
  | ident =>
    cases h : v.identifier? with
    | none => simp [(Value.identifier?_eq_none_iff v).mp h]
    | some s =>
      have hn : ¬v.HasNull := fun hn => by simp [(Value.identifier?_eq_none_iff v).mpr hn] at h
      simp [hn]
  | literal => rfl
  | raw => rfl
  | _ => exact absurd hk hp

/-! ## The specification -/

/-- Segments with their placeholders replaced, in order, by texts; a placeholder with no text
left stands for nothing. -/
def weave : List Segment → List String → String
  | [], _ => ""
  | .text s :: rest, xs => s ++ weave rest xs
  | .hole _ :: rest, [] => weave rest []
  | .hole _ :: rest, x :: xs => x ++ weave rest xs

/-- Placeholder `i` of `ps` fails with the arguments `args`, with the error `e`. A missing
argument is reported by its index counted from `start`. -/
inductive Fault (start : Nat) (ps : List Placeholder) (args : List Value) (i : Nat) :
    Error → Prop
  /-- No argument is left for it. -/
  | missing : args.length ≤ i → Fault start ps args i (.missingPositional (start + i))
  /-- It is an identifier placeholder and its argument holds a null. -/
  | null {p : Placeholder} {v : Value} : ps[i]? = some p → args[i]? = some v → p.kind = .ident →
      v.HasNull → Fault start ps args i (.nullIdentifier p.position)

section Fault

variable {start i : Nat} {p : Placeholder} {ps : List Placeholder} {v : Value} {vs : List Value}
  {e : Error}

theorem fault_nil_iff : Fault start ps [] i e ↔ e = .missingPositional (start + i) := by
  constructor
  · rintro (_ | ⟨-, h, -⟩)
    · rfl
    · simp at h
  · rintro rfl
    exact .missing (Nat.zero_le i)

theorem fault_cons_zero_iff :
    Fault start (p :: ps) (v :: vs) 0 e ↔
      p.kind = .ident ∧ v.HasNull ∧ e = .nullIdentifier p.position := by
  constructor
  · rintro (h | ⟨hp, hv, hk, hn⟩)
    · simp at h
    · cases Option.some.inj hp
      cases Option.some.inj hv
      exact ⟨hk, hn, rfl⟩
  · rintro ⟨hk, hn, rfl⟩
    exact .null rfl rfl hk hn

/-- Past the first placeholder, a fault is one of the rest, one argument further on. -/
theorem fault_cons_succ_iff :
    Fault start (p :: ps) (v :: vs) (i + 1) e ↔ Fault (start + 1) ps vs i e := by
  have hidx : start + (i + 1) = start + 1 + i := by omega
  constructor
  · rintro (h | ⟨hp, hv, hk, hn⟩)
    · rw [hidx]
      exact .missing (by simpa using h)
    · exact .null (by simpa using hp) (by simpa using hv) hk hn
  · rintro (h | ⟨hp, hv, hk, hn⟩)
    · rw [← hidx]
      exact .missing (by simpa using h)
    · exact .null (by simpa using hp) (by simpa using hv) hk hn

end Fault

/-! ## Rendering segment by segment -/

section Steps

variable {start : Nat} {rest : List Segment} {args : List Value}

theorem renderSegments_text (s : String) :
    renderSegments (.text s :: rest) start args = (renderSegments rest start args).map (s ++ ·) := by
  simp only [renderSegments]
  cases renderSegments rest start args <;> rfl

theorem renderSegments_hole_cons {p : Placeholder} (hp : p.kind ≠ .include) (v : Value)
    (vs : List Value) :
    renderSegments (.hole p :: rest) start (v :: vs) =
      if p.kind = .ident ∧ v.HasNull then .error (.nullIdentifier p.position)
      else (renderSegments rest (start + 1) vs).map (p.fill v ++ ·) := by
  simp only [renderSegments, renderHole_eq hp]
  split
  · rfl
  · cases renderSegments rest (start + 1) vs <;> rfl

end Steps

section Spliced

variable {segs : List Segment}

/-- The error of rendering segments is the error of their first placeholder that fails. -/
theorem renderSegments_eq_error_iff (hs : ∀ p ∈ holes segs, p.kind ≠ .include) (start : Nat)
    (args : List Value) (e : Error) :
    renderSegments segs start args = .error e ↔
      ∃ i < (holes segs).length, Fault start (holes segs) args i e ∧
        ∀ j < i, ∀ e', ¬Fault start (holes segs) args j e' := by
  induction segs generalizing start args with
  | nil => simp [renderSegments, holes]
  | cons seg rest ih =>
    cases seg with
    | text s =>
      rw [renderSegments_text, map_eq_error_iff]
      exact ih hs start args
    | hole p =>
      have hp : p.kind ≠ .include := hs p List.mem_cons_self
      have hrest : ∀ q ∈ holes rest, q.kind ≠ .include :=
        fun q hq => hs q (List.mem_cons_of_mem _ hq)
      simp only [holes, List.length_cons, Nat.exists_lt_succ_left, Nat.not_lt_zero,
        Nat.forall_lt_succ_left]
      cases args with
      | nil =>
        -- no argument is left: the first placeholder fails, and so every later one is not first
        simp [renderSegments, fault_nil_iff, eq_comm]
      | cons v vs =>
        rw [renderSegments_hole_cons hp]
        by_cases hf : p.kind = .ident ∧ v.HasNull
        · simp [hf, fault_cons_zero_iff, eq_comm]
        · simp only [hf, if_false, map_eq_error_iff, ih hrest, fault_cons_zero_iff,
            fault_cons_succ_iff]
          simp_all

/-- Rendering segments succeeds exactly when no placeholder fails, with the text woven from the
segments and the placeholders' renderings. -/
theorem renderSegments_eq_ok_iff (hs : ∀ p ∈ holes segs, p.kind ≠ .include) (start : Nat)
    (args : List Value) (s : String) :
    renderSegments segs start args = .ok s ↔
      (∀ i < (holes segs).length, ∀ e, ¬Fault start (holes segs) args i e) ∧
        s = weave segs (List.zipWith Placeholder.fill (holes segs) args) := by
  induction segs generalizing start args s with
  | nil => simp [renderSegments, holes, weave, eq_comm]
  | cons seg rest ih =>
    cases seg with
    | text t =>
      simp only [renderSegments_text, map_eq_ok_iff, ih hs, holes, weave]
      constructor
      · rintro ⟨r, ⟨hf, rfl⟩, rfl⟩
        exact ⟨hf, rfl⟩
      · rintro ⟨hf, rfl⟩
        exact ⟨_, ⟨hf, rfl⟩, rfl⟩
    | hole p =>
      have hp : p.kind ≠ .include := hs p List.mem_cons_self
      have hrest : ∀ q ∈ holes rest, q.kind ≠ .include :=
        fun q hq => hs q (List.mem_cons_of_mem _ hq)
      simp only [holes, List.length_cons, Nat.forall_lt_succ_left]
      cases args with
      | nil =>
        -- the first placeholder has no argument
        simp [renderSegments, fault_nil_iff]
      | cons v vs =>
        rw [renderSegments_hole_cons hp]
        by_cases hf : p.kind = .ident ∧ v.HasNull
        · simp [hf, fault_cons_zero_iff]
        · simp only [hf, if_false, map_eq_ok_iff, ih hrest, fault_cons_zero_iff,
            fault_cons_succ_iff, List.zipWith_cons_cons, weave]
          constructor
          · rintro ⟨r, ⟨hfs, rfl⟩, rfl⟩
            exact ⟨⟨fun e he => hf ⟨he.1, he.2.1⟩, hfs⟩, rfl⟩
          · rintro ⟨⟨-, hfs⟩, rfl⟩
            exact ⟨_, ⟨hfs, rfl⟩, rfl⟩

end Spliced

/-- Arguments past the last placeholder are never read. -/
theorem renderSegments_append (segs : List Segment) (start : Nat) {args : List Value}
    (extra : List Value) (h : (holes segs).length ≤ args.length) :
    renderSegments segs start (args ++ extra) = renderSegments segs start args := by
  induction segs generalizing start args with
  | nil => rfl
  | cons seg rest ih =>
    cases seg with
    | text s =>
      simp only [renderSegments_text]
      rw [ih start h]
    | hole p =>
      cases args with
      | nil => simp [holes] at h
      | cons v vs =>
        have hvs : (holes rest).length ≤ vs.length := by simpa [holes] using h
        simp only [List.cons_append, renderSegments, ih (start + 1) hvs]

/-! ## Rendering a template -/

/-- Positional rendering of a template whose includes are spliced in. Its error is that of the
first placeholder that fails: no argument left, reported by its index, or a null under an
identifier placeholder, reported by its position. Without a failure it is the template's text
with the placeholders' renderings in their places, NUL characters dropped. Arguments past the
last placeholder change nothing, and when the arguments run out before any null under an
identifier, the index reported is the number of arguments. -/
theorem render_eq_first_fault (T : Template) (hT : ∀ p ∈ T.placeholders, p.kind ≠ .include)
    (args : List Value) :
    (∀ e, T.render args = .error e ↔
        ∃ i < T.placeholders.length, Fault 0 T.placeholders args i e ∧
          ∀ j < i, ∀ e', ¬Fault 0 T.placeholders args j e') ∧
      (∀ s, T.render args = .ok s ↔
        (∀ i < T.placeholders.length, ∀ e, ¬Fault 0 T.placeholders args i e) ∧
          s = dropNul (weave T.segments (List.zipWith Placeholder.fill T.placeholders args))) ∧
      (∀ extra, T.placeholders.length ≤ args.length → T.render (args ++ extra) = T.render args) ∧
      (args.length < T.placeholders.length →
        (∀ j < args.length, ∀ p v, T.placeholders[j]? = some p → args[j]? = some v →
          p.kind = .ident → ¬v.HasNull) →
        T.render args = .error (.missingPositional args.length)) := by
  have herr : ∀ e, T.render args = .error e ↔
      ∃ i < T.placeholders.length, Fault 0 T.placeholders args i e ∧
        ∀ j < i, ∀ e', ¬Fault 0 T.placeholders args j e' := by
    intro e
    rw [render, map_eq_error_iff]
    exact renderSegments_eq_error_iff hT 0 args e
  have hok : ∀ s, T.render args = .ok s ↔
      (∀ i < T.placeholders.length, ∀ e, ¬Fault 0 T.placeholders args i e) ∧
        s = dropNul (weave T.segments (List.zipWith Placeholder.fill T.placeholders args)) := by
    intro s
    rw [render, map_eq_ok_iff]
    simp only [renderSegments_eq_ok_iff hT 0 args, placeholders]
    constructor
    · rintro ⟨r, ⟨hf, rfl⟩, rfl⟩
      exact ⟨hf, rfl⟩
    · rintro ⟨hf, rfl⟩
      exact ⟨_, ⟨hf, rfl⟩, rfl⟩
  refine ⟨herr, hok, ?_, ?_⟩
  · intro extra h
    simp only [render, renderSegments_append T.segments 0 extra h]
  · intro hlen hnull
    -- the argument list runs out at its length, and nothing before it fails
    have hmiss : Fault 0 T.placeholders args args.length (.missingPositional (0 + args.length)) :=
      .missing (le_refl args.length)
    rw [Nat.zero_add] at hmiss
    have hbefore : ∀ j < args.length, ∀ e', ¬Fault 0 T.placeholders args j e' := by
      rintro j hj e' (h | ⟨hp, hv, hk, hn⟩)
      · omega
      · exact hnull j hj _ _ hp hv hk hn
    exact (herr _).mpr ⟨args.length, hlen, hmiss, hbefore⟩

/-- With a null inside the list for its first identifier and no argument for its second, a
`select` template reports the null, at its position. -/
theorem render_null_before_missing_argument :
    let T : Template := ⟨[.text "select ", .hole ⟨.ident, some "cols", 7⟩, .text " from ",
      .hole ⟨.ident, some "t", 20⟩]⟩
    (∀ p ∈ T.placeholders, p.kind ≠ .include) ∧
      T.render [.list [.text "a", .null]] = .error (.nullIdentifier 7) := by
  intro T
  have hT : ∀ p ∈ T.placeholders, p.kind ≠ .include := by decide
  have hnull : Fault 0 T.placeholders [.list [.text "a", .null]] 0 (.nullIdentifier 7) :=
    .null (p := ⟨.ident, some "cols", 7⟩) rfl rfl rfl
      (.item (List.mem_cons_of_mem _ List.mem_cons_self) .null)
  exact ⟨hT, ((render_eq_first_fault T hT _).1 _).mpr
    ⟨0, by decide, hnull, fun j hj => absurd hj (Nat.not_lt_zero j)⟩⟩

end TableDdl.Template
