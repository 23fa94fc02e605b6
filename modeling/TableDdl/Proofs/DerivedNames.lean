-- When two indexes of a table get the same derived name: exactly when their columns, each after a
-- `_`, run together into the same text. A shared name makes the guard of one PostgreSQL block find
-- the index that another created.
import TableDdl.Proofs.IndexNames

namespace TableDdl

open Sql Template

/-! ## Names run together -/

/-- Joining by a one-character separator puts the separator before every text but the first. -/
theorem intercalate_cons_eq_append_flatMap (c : Char) (a : List Char) (l : List (List Char)) :
    [c].intercalate (a :: l) = a ++ l.flatMap (c :: ·) := by
  induction l generalizing a with
  | nil => simp
  | cons b l ih =>
    rw [List.intercalate_cons_cons, ih b, List.flatMap_cons]
    simp

/-- Texts each preceded by `_` and run together start with `_`, if they start at all. -/
theorem head?_flatMap_underscore (l : List String) :
    ∀ x ∈ (l.flatMap fun c => '_' :: c.toList).head?, x = '_' := by
  cases l with
  | nil => simp
  | cons c l => simp

/-- Two texts without `_`, each followed by nothing or by a text that starts with `_`, end at the
same place: the first `_` ends both. -/
theorem eq_of_append_eq_append_underscore {a b r r' : List Char} (ha : '_' ∉ a) (hb : '_' ∉ b)
    (hr : ∀ x ∈ r.head?, x = '_') (hr' : ∀ x ∈ r'.head?, x = '_') (h : a ++ r = b ++ r') :
    a = b ∧ r = r' := by
  induction a generalizing b with
  | nil =>
    cases b with
    | nil => exact ⟨rfl, h⟩
    | cons y b =>
      -- `r` would start with `y`, a character of `b`
      rw [List.nil_append] at h
      have hy : y = '_' := hr y (by simp [h])
      exact absurd (hy ▸ List.mem_cons_self) hb
  | cons x a ih =>
    cases b with
    | nil =>
      rw [List.nil_append] at h
      have hx : x = '_' := hr' x (by simp [← h])
      exact absurd (hx ▸ List.mem_cons_self) ha
    | cons y b =>
      simp only [List.cons_append, List.cons.injEq] at h
      obtain ⟨rfl, h⟩ := h
      obtain ⟨rfl, hrest⟩ := ih (fun hm => ha (List.mem_cons_of_mem _ hm))
        (fun hm => hb (List.mem_cons_of_mem _ hm)) h
      exact ⟨rfl, hrest⟩

/-- Texts without `_`, each preceded by `_` and run together, give the texts back. -/
theorem eq_of_flatMap_underscore_eq {l l' : List String} (h : ∀ c ∈ l ++ l', '_' ∉ c.toList)
    (heq : (l.flatMap fun c => '_' :: c.toList) = l'.flatMap fun c => '_' :: c.toList) :
    l = l' := by
  induction l generalizing l' with
  | nil =>
    cases l' with
    | nil => rfl
    | cons b l' => simp at heq
  | cons a l ih =>
    cases l' with
    | nil => simp at heq
    | cons b l' =>
      simp only [List.flatMap_cons, List.cons_append, List.cons.injEq, true_and] at heq
      obtain ⟨hab, hrest⟩ := eq_of_append_eq_append_underscore (h a (by simp)) (h b (by simp))
        (head?_flatMap_underscore l) (head?_flatMap_underscore l') heq
      have hl : ∀ c ∈ l ++ l', '_' ∉ c.toList := fun c hc =>
        h c (List.mem_append.mpr ((List.mem_append.mp hc).imp (List.mem_cons_of_mem _)
          (List.mem_cons_of_mem _)))
      rw [String.toList_inj.mp hab, ih hl hrest]

/-! ## Derived names -/

namespace Index

theorem toList_derivedName (i : Index) (table : String) :
    (i.derivedName table).toList =
      table.toList ++ (i.columns.flatMap fun c => '_' :: c.toList) ++ "_idx".toList := by
  simp [derivedName, String.toList_intercalate, intercalate_cons_eq_append_flatMap, suffix,
    List.flatMap_map]

theorem toList_join_underscore (l : List String) :
    (String.join (l.map ("_" ++ ·))).toList = l.flatMap fun c => '_' :: c.toList := by
  simp [String.toList_join, List.flatMap_map]

/-- Two indexes of a table share a name exactly when their columns, each preceded by `_`, run
together into the same text. -/
theorem derivedName_eq_iff (i j : Index) (table : String) :
    i.derivedName table = j.derivedName table ↔
      String.join (i.columns.map ("_" ++ ·)) = String.join (j.columns.map ("_" ++ ·)) := by
  rw [← String.toList_inj, ← String.toList_inj, toList_derivedName, toList_derivedName,
    toList_join_underscore, toList_join_underscore, List.append_cancel_right_eq,
    List.append_cancel_left_eq]

/-- When no column holds `_`, different column lists give different names. -/
theorem derivedName_ne {i j : Index} (h : ∀ c ∈ i.columns ++ j.columns, '_' ∉ c.toList)
    (hne : i.columns ≠ j.columns) (table : String) :
    i.derivedName table ≠ j.derivedName table := by
  rw [Ne, derivedName_eq_iff, ← String.toList_inj, toList_join_underscore, toList_join_underscore]
  exact fun heq => hne (eq_of_flatMap_underscore_eq h heq)

/-- A character other than those of `_idx` is in a derived name exactly when it is in the table's
name or in a column's. -/
theorem mem_derivedName {x : Char} (hx : x ∉ "_idx".toList) (i : Index) (table : String) :
    x ∈ (i.derivedName table).toList ↔ x ∈ table.toList ∨ ∃ c ∈ i.columns, x ∈ c.toList := by
  have hsep : x ≠ '_' := fun h => hx (by simp [h])
  rw [toList_derivedName, List.mem_append, List.mem_append, or_iff_left hx, List.mem_flatMap]
  simp [hsep]

theorem not_mem_derivedName {x : Char} (hx : x ∉ "_idx".toList) {i : Index} {table : String}
    (ht : x ∉ table.toList) (hc : ∀ c ∈ i.columns, x ∉ c.toList) :
    x ∉ (i.derivedName table).toList := by
  rw [mem_derivedName hx]
  rintro (hm | ⟨c, hc', hm⟩)
  · exact ht hm
  · exact hc c hc' hm

end Index

/-! ## The guards of index blocks -/

namespace Ddl

/-- The guard of one index block finds the index that another block creates: its constants for
the schema, the table and the index name stand for the names that the other block's
`create index` line gives. The later block then skips its `create index`. -/
def IndexFill.GuardFinds (guard created : IndexFill) : Prop :=
  constantText? guard.schemaConst = identName? created.schemaIdent ∧
    constantText? guard.tableConst = identName? created.tableIdent ∧
    constantText? guard.indexConst = identName? created.indexIdent

/-- A name with neither a backslash nor a NUL is read as written, by the guard and by the
`create index` line alike. -/
theorem dropNul_doubleBackslashes_of_plain {s : String} (hb : '\\' ∉ s.toList)
    (hn : '\x00' ∉ s.toList) : dropNul (doubleBackslashes s) = s := by
  rw [doubleBackslashes, doubling_eq_self hb, String.ofList_toList, dropNul_eq_self hn]

/-- The guard of a block whose index name is read as written never finds an index of another
name. -/
theorem not_guardFinds_of_derivedName_ne (t : Table) {i j : Index}
    (hi : '\x00' ∉ (i.derivedName t.table).toList)
    (hjb : '\\' ∉ (j.derivedName t.table).toList) (hjn : '\x00' ∉ (j.derivedName t.table).toList)
    (hne : i.derivedName t.table ≠ j.derivedName t.table) :
    ¬(IndexFill.ofIndex t j).GuardFinds (IndexFill.ofIndex t i) := by
  rintro ⟨-, -, hindex⟩
  rw [(IndexFill.reads_ofIndex t j).indexConst, (IndexFill.reads_ofIndex t i).indexIdent,
    dropNul_doubleBackslashes_of_plain hjb hjn, dropNul_eq_self hi, Option.some_inj] at hindex
  exact hne hindex.symm

/-- Two indexes of a table get the same name exactly when their columns, each preceded by `_`,
run together into the same text. So when no column holds `_`, different column lists get
different names; when moreover the table's and the columns' names hold neither a backslash nor a
NUL, the `pg_indexes` guard of one index's block never finds the index that the other's block
creates, and so never skips its creation. -/
theorem derivedName_eq_iff_joined_columns (t : Table) (i j : Index) :
    (i.derivedName t.table = j.derivedName t.table ↔
      String.join (i.columns.map ("_" ++ ·)) = String.join (j.columns.map ("_" ++ ·))) ∧
    ((∀ c ∈ i.columns ++ j.columns, '_' ∉ c.toList) → i.columns ≠ j.columns →
      i.derivedName t.table ≠ j.derivedName t.table ∧
      ((∀ n ∈ t.table :: (i.columns ++ j.columns), '\\' ∉ n.toList ∧ '\x00' ∉ n.toList) →
        ¬(IndexFill.ofIndex t j).GuardFinds (IndexFill.ofIndex t i))) := by
  refine ⟨Index.derivedName_eq_iff i j t.table, fun hsep hne => ?_⟩
  have hnames := Index.derivedName_ne hsep hne t.table
  refine ⟨hnames, fun hplain => ?_⟩
  have htable := hplain t.table List.mem_cons_self
  have hicols : ∀ c ∈ i.columns, '\\' ∉ c.toList ∧ '\x00' ∉ c.toList :=
    fun c hc => hplain c (List.mem_cons_of_mem _ (List.mem_append_left _ hc))
  have hjcols : ∀ c ∈ j.columns, '\\' ∉ c.toList ∧ '\x00' ∉ c.toList :=
    fun c hc => hplain c (List.mem_cons_of_mem _ (List.mem_append_right _ hc))
  -- neither a backslash nor a NUL is among the characters of `_idx`
  exact not_guardFinds_of_derivedName_ne t
    (Index.not_mem_derivedName (by decide) htable.2 fun c hc => (hicols c hc).2)
    (Index.not_mem_derivedName (by decide) htable.1 fun c hc => (hjcols c hc).1)
    (Index.not_mem_derivedName (by decide) htable.2 fun c hc => (hjcols c hc).2) hnames

/-- Columns without `_`, in a table whose names hold no backslash or NUL, keep the names and the
guards of their blocks apart. -/
theorem derivedName_plain_columns_apart :
    (⟨["a"]⟩ : Index).derivedName "t" ≠ (⟨["b"]⟩ : Index).derivedName "t" ∧
      ¬(IndexFill.ofIndex { schema := "s", table := "t", indexes := [⟨["a"]⟩, ⟨["b"]⟩] }
          ⟨["b"]⟩).GuardFinds
        (IndexFill.ofIndex { schema := "s", table := "t", indexes := [⟨["a"]⟩, ⟨["b"]⟩] }
          ⟨["a"]⟩) :=
  have h := (derivedName_eq_iff_joined_columns
    { schema := "s", table := "t", indexes := [⟨["a"]⟩, ⟨["b"]⟩] } ⟨["a"]⟩ ⟨["b"]⟩).2
    (by decide +kernel) (by decide)
  ⟨h.1, h.2 (by decide +kernel)⟩

/-- The columns `["b_c"]` and `["b", "c"]` share the name `t_b_c_idx`, and the guard of the second
block finds the index that the first block creates. -/
theorem derivedName_underscore_clash :
    (["b_c"] : List String) ≠ ["b", "c"] ∧
      (⟨["b_c"]⟩ : Index).derivedName "t" = (⟨["b", "c"]⟩ : Index).derivedName "t" ∧
      (IndexFill.ofIndex { schema := "s", table := "t", indexes := [⟨["b_c"]⟩, ⟨["b", "c"]⟩] }
          ⟨["b", "c"]⟩).GuardFinds
        (IndexFill.ofIndex { schema := "s", table := "t", indexes := [⟨["b_c"]⟩, ⟨["b", "c"]⟩] }
          ⟨["b_c"]⟩) := by
  have hname : (⟨["b_c"]⟩ : Index).derivedName "t" = (⟨["b", "c"]⟩ : Index).derivedName "t" := by
    decide +kernel
  have hj := IndexFill.reads_ofIndex
    { schema := "s", table := "t", indexes := [⟨["b_c"]⟩, ⟨["b", "c"]⟩] } ⟨["b", "c"]⟩
  have hi := IndexFill.reads_ofIndex
    { schema := "s", table := "t", indexes := [⟨["b_c"]⟩, ⟨["b", "c"]⟩] } ⟨["b_c"]⟩
  refine ⟨by decide, hname, ?_, ?_, ?_⟩
  · rw [hj.schemaConst, hi.schemaIdent]
    decide +kernel
  · rw [hj.tableConst, hi.tableIdent]
    decide +kernel
  · rw [hj.indexConst, hi.indexIdent, ← hname]
    decide +kernel

end Ddl

end TableDdl
