-- Named rendering: every placeholder is looked up by its name, in order, before anything renders,
-- so the first one not found decides the error; otherwise it is positional rendering of the values
-- found.
import TableDdl.Proofs.RenderPositional

namespace TableDdl.Template

/-- Why named rendering cannot fill a placeholder from `params`: it has no name, or its name is
not among the parameters. -/
inductive Unresolved (params : Params) (p : Placeholder) : Error → Prop
  | unnamed : p.name = none → Unresolved params p (.unnamedPlaceholder p.position)
  | missing {n : String} : p.name = some n → params.get? n = none →
      Unresolved params p (.missingParameter n)

/-- The value that named rendering finds for one placeholder. -/
def lookupHole (params : Params) (p : Placeholder) : Except Error Value :=
  match p.name with
  | none => .error (.unnamedPlaceholder p.position)
  | some n =>
    match params.get? n with
    | some v => .ok v
    | none => .error (.missingParameter n)

theorem resolve_eq_mapM (t : Template) (params : Params) :
    t.resolve params = t.placeholders.mapM (lookupHole params) :=
  rfl

section Lookup

variable {params : Params} {p : Placeholder}

theorem lookupHole_eq_error_iff {e : Error} :
    lookupHole params p = .error e ↔ Unresolved params p e := by
  unfold lookupHole
  constructor
  · intro h
    cases hn : p.name with
    | none =>
      simp only [hn, Except.error.injEq] at h
      exact h ▸ .unnamed hn
    | some n =>
      cases hv : params.get? n with
      | none =>
        simp only [hn, hv, Except.error.injEq] at h
        exact h ▸ .missing hn hv
      | some v => simp [hn, hv] at h
  · rintro (hn | ⟨hn, hv⟩)
    · simp [hn]
    · simp [hn, hv]

/-- A placeholder that is not unresolved finds the value of its name. -/
theorem lookupHole_of_resolved (h : ∀ e, ¬Unresolved params p e) :
    ∃ n v, p.name = some n ∧ params.get? n = some v ∧ lookupHole params p = .ok v := by
  cases hn : p.name with
  | none => exact absurd (.unnamed hn) (h _)
  | some n =>
    cases hv : params.get? n with
    | none => exact absurd (.missing hn hv) (h _)
    | some v => exact ⟨n, v, rfl, hv, by simp [lookupHole, hn, hv]⟩

end Lookup

section Placeholders

variable {params : Params}

/-- The first unresolved placeholder stops the lookups with its error. -/
theorem mapM_lookupHole_first_unresolved {pre post : List Placeholder} {p : Placeholder}
    {e : Error} (hpre : ∀ q ∈ pre, ∀ e', ¬Unresolved params q e') (hp : Unresolved params p e) :
    (pre ++ p :: post).mapM (lookupHole params) = .error e := by
  induction pre with
  | nil =>
    rw [List.nil_append, List.mapM_cons, lookupHole_eq_error_iff.mpr hp]
    rfl
  | cons q pre ih =>
    obtain ⟨-, v, -, -, hq⟩ := lookupHole_of_resolved (hpre q List.mem_cons_self)
    rw [List.cons_append, List.mapM_cons, hq,
      ih fun q' hq' => hpre q' (List.mem_cons_of_mem _ hq')]
    rfl

/-- When every placeholder is resolved, the lookups give the values of their names, in order. -/
theorem mapM_lookupHole_of_resolved {ps : List Placeholder}
    (h : ∀ p ∈ ps, ∀ e, ¬Unresolved params p e) :
    ps.mapM (lookupHole params) = .ok ((ps.filterMap (·.name)).filterMap params.get?) := by
  induction ps with
  | nil => rfl
  | cons p ps ih =>
    obtain ⟨n, v, hn, hv, hp⟩ := lookupHole_of_resolved (h p List.mem_cons_self)
    rw [List.mapM_cons, hp, ih fun q hq => h q (List.mem_cons_of_mem _ hq)]
    simp [hn, hv]
    rfl

/-- The lookups read the parameters only at the names of the placeholders. -/
theorem mapM_lookupHole_congr {ps : List Placeholder} {params' : Params}
    (h : ∀ n ∈ ps.filterMap (·.name), params.get? n = params'.get? n) :
    ps.mapM (lookupHole params) = ps.mapM (lookupHole params') := by
  induction ps with
  | nil => rfl
  | cons p ps ih =>
    have hrest : ∀ n ∈ ps.filterMap (·.name), params.get? n = params'.get? n := by
      intro n hn
      apply h n
      rw [List.filterMap_cons]
      split <;> simp_all
    have hp : lookupHole params p = lookupHole params' p := by
      unfold lookupHole
      cases hn : p.name with
      | none => rfl
      | some n =>
        -- the placeholder's own name is one the two parameter sets agree on
        have hn' : n ∈ (p :: ps).filterMap (·.name) := by simp [hn]
        simp only [h n hn']
    rw [List.mapM_cons, List.mapM_cons, hp, ih hrest]

end Placeholders

/-- Named rendering. The first placeholder, in source order, that has no name or whose name the
parameters lack decides the error, even when an earlier identifier placeholder's value is
null. When every name is found, named rendering is positional rendering with the value of each
placeholder's name. Two parameter sets that agree on the template's names render alike. -/
theorem renderNamed_looks_up_first (T : Template) (params : Params) :
    (∀ pre p post e, T.placeholders = pre ++ p :: post →
        (∀ q ∈ pre, ∀ e', ¬Unresolved params q e') → Unresolved params p e →
        T.renderNamed params = .error e) ∧
      ((∀ p ∈ T.placeholders, ∀ e, ¬Unresolved params p e) →
        T.renderNamed params = T.render (T.parameterNames.filterMap params.get?)) ∧
      (∀ params', (∀ n ∈ T.parameterNames, params.get? n = params'.get? n) →
        T.renderNamed params = T.renderNamed params') := by
  refine ⟨?_, ?_, ?_⟩
  · intro pre p post e hT hpre hp
    rw [renderNamed, resolve_eq_mapM, hT, mapM_lookupHole_first_unresolved hpre hp]
    rfl
  · intro h
    rw [renderNamed, resolve_eq_mapM, mapM_lookupHole_of_resolved h]
    rfl
  · intro params' h
    rw [renderNamed, renderNamed, resolve_eq_mapM, resolve_eq_mapM, mapM_lookupHole_congr h]

end TableDdl.Template
