-- CREATE TABLE for PostgreSQL with a template directory: the index template is read once, its
-- fault or the first failing block's is the statement's, and the rendered blocks follow the
-- statement in order. Translating `create` gives this statement for the normalised table.
import TableDdl.Proofs.CreateTable

namespace TableDdl

/-! ## Traversals that may fail -/

section Traverse

variable {α β ε : Type} {f : α → Except ε β}

/-- A traversal succeeds with the result of every item, in order. -/
theorem mapM_except_of_forall₂ {l : List α} {bs : List β}
    (h : List.Forall₂ (fun a b => f a = .ok b) l bs) : l.mapM f = .ok bs := by
  induction h with
  | nil => rfl
  | cons hab _ ih =>
    rw [List.mapM_cons, hab, ih]
    rfl

/-- A traversal fails with the fault of its first failing item. -/
theorem mapM_except_first_error {pre post : List α} {a : α} {e : ε}
    (hpre : ∀ y ∈ pre, ∃ b, f y = .ok b) (ha : f a = .error e) :
    (pre ++ a :: post).mapM f = .error e := by
  induction pre with
  | nil =>
    rw [List.nil_append, List.mapM_cons, ha]
    rfl
  | cons y pre ih =>
    obtain ⟨b, hb⟩ := hpre y List.mem_cons_self
    have hrest : ∀ y' ∈ pre, ∃ b, f y' = .ok b :=
      fun y' hy' => hpre y' (List.mem_cons_of_mem _ hy')
    rw [List.cons_append, List.mapM_cons, hb, ih hrest]
    rfl

end Traverse

namespace Ddl

open Template

/-! ## The statement around its index blocks -/

/-- Index blocks follow the statement without them, each on a line of its own; a block that is
empty is left out. -/
theorem postgresLayout_append_blocks (t : Table) (blocks : List String) :
    postgresLayout t blocks =
      postgresLayout t [] ++ String.join ((blocks.filter (!·.isEmpty)).map ("\n" ++ ·)) := by
  -- the head is never empty, so every later piece starts a line of its own
  simp only [postgresLayout]
  rw [List.append_nil, List.cons_append, joinPieces_cons _ (head_ne_empty t),
    joinPieces_cons _ (head_ne_empty t), join_filter_newline, List.map_append, String.join_append,
    String.append_assoc]

/-- Without indexes no template is read, in any monad: the statement is the table's alone. -/
theorem createPostgres_no_indexes {m : Type → Type} [Monad m] [LawfulMonad m]
    (look : String → m Entry) (dir : Option String) {t : Table} (h : t.indexes = []) :
    createPostgres look dir t = pure (postgresLayout t []) := by
  simp [createPostgres, indexBlocks, h]

section Files

variable (fs : String → Id Entry)

/-- Reading an entry and branching on whether it is a regular file branches on the entry. -/
theorem run_liftM_isFile {α : Type} (e : Id Entry) (x : ExceptT Error Id α) (r : Except Error α) :
    (do let v ← (liftM e : ExceptT Error Id Entry); if v.isFile then x else liftResult r).run.run =
      if e.isFile then x.run.run else r := by
  cases e <;> rfl

/-- The index template of a directory: its `create-index.sql` read as a template file when that
is a regular file, and the bundled template otherwise. -/
theorem indexTemplate_some_run (d : String) :
    (indexTemplate fs (some d)).run.run =
      if (fs (Path.join d indexTemplateFile)).isFile then
        (ofFile fs (Path.join d indexTemplateFile)).run.run
      else ofText bundledIndexTemplate := by
  simp only [indexTemplate]
  -- the fallback stays `liftResult r` on both sides, so the kernel never compiles the bundled
  -- template to compare it
  exact run_liftM_isFile _ _ _

variable (dir : Option String) (t : Table)

/-- The blocks of a table with indexes come from one reading of the template, rendered index by
index. -/
theorem indexBlocks_run :
    (indexBlocks fs dir t).run.run =
      if t.indexes = [] then .ok []
      else (indexTemplate fs dir).run.run >>= fun tpl =>
        t.indexes.mapM fun i => tpl.renderNamed (indexParams t i) := by
  unfold indexBlocks
  by_cases h : t.indexes = []
  · simp [h]
  · rw [if_neg (by simpa using h), if_neg h, ExceptT.run_bind]
    cases (indexTemplate fs dir).run <;> rfl

theorem createIndex_run (i : Index) :
    (createIndex fs dir t i).run.run =
      (indexTemplate fs dir).run.run >>= fun tpl => tpl.renderNamed (indexParams t i) := by
  rw [createIndex, ExceptT.run_bind]
  cases (indexTemplate fs dir).run <;> rfl

theorem createPostgres_run :
    (createPostgres fs dir t).run.run = (indexBlocks fs dir t).run.run.map (postgresLayout t) := by
  rw [createPostgres, ExceptT.run_bind]
  cases (indexBlocks fs dir t).run <;> rfl

/-- Rendering the blocks together gives what rendering each index's block on its own gives:
every reading of the template finds the same file system. -/
theorem indexBlocks_eq_mapM_createIndex :
    (indexBlocks fs dir t).run.run = t.indexes.mapM fun i => (createIndex fs dir t i).run.run := by
  simp only [indexBlocks_run, createIndex_run]
  by_cases h : t.indexes = []
  · rw [if_pos h, h]
    rfl
  · rw [if_neg h]
    cases (indexTemplate fs dir).run.run with
    | error e =>
      -- the first index already meets the template's fault
      obtain ⟨i, is, hi⟩ := List.exists_cons_of_ne_nil h
      rw [hi, List.mapM_cons]
      rfl
    | ok tpl => rfl

/-- A template's fault is the statement's fault, once the table has an index. -/
theorem createPostgres_template_error {e : Error} (h : t.indexes ≠ [])
    (he : (indexTemplate fs dir).run.run = .error e) :
    (createPostgres fs dir t).run.run = .error e := by
  rw [createPostgres_run, indexBlocks_run, if_neg h, he]
  rfl

/-- Once the template is read, the statement is the table's with the blocks of its indexes
rendered in order, or the first fault among them. -/
theorem createPostgres_of_template_ok {tpl : Template}
    (ht : (indexTemplate fs dir).run.run = .ok tpl) :
    (createPostgres fs dir t).run.run =
      (t.indexes.mapM fun i => tpl.renderNamed (indexParams t i)).map (postgresLayout t) := by
  rw [createPostgres_run, indexBlocks_run]
  by_cases h : t.indexes = []
  · -- no index renders no block, and reads no template
    rw [if_pos h, h]
    rfl
  · rw [if_neg h, ht]
    rfl

/-- The first index whose block fails to render decides the statement's fault. -/
theorem createPostgres_first_block_error {tpl : Template} {pre post : List Index} {i : Index}
    {e : Error} (ht : (indexTemplate fs dir).run.run = .ok tpl) (hi : t.indexes = pre ++ i :: post)
    (hpre : ∀ j ∈ pre, ∃ b, tpl.renderNamed (indexParams t j) = .ok b)
    (he : tpl.renderNamed (indexParams t i) = .error e) :
    (createPostgres fs dir t).run.run = .error e := by
  rw [createPostgres_of_template_ok fs dir t ht, hi, mapM_except_first_error hpre he]
  rfl

/-- When every block renders, they follow the statement without them, in order. -/
theorem createPostgres_blocks {tpl : Template} {blocks : List String}
    (ht : (indexTemplate fs dir).run.run = .ok tpl)
    (hb : List.Forall₂ (fun i b => tpl.renderNamed (indexParams t i) = .ok b) t.indexes blocks) :
    (createPostgres fs dir t).run.run = .ok
      (postgresLayout t [] ++ String.join ((blocks.filter (!·.isEmpty)).map ("\n" ++ ·))) := by
  rw [createPostgres_of_template_ok fs dir t ht, mapM_except_of_forall₂ hb,
    ← postgresLayout_append_blocks]
  rfl

end Files

end Ddl

/-! ## Translating with a template directory -/

/-- A description of type `create` translates to the PostgreSQL statement of its normalised
table, with the faults of the index template passed on. -/
theorem Translator.translate_create_run (tr : Translator) (look : String → Id Entry) (v : Json)
    (h : v.get? "type" = some (.str "create")) :
    (tr.translate look .postgres v).run.run =
      (Ddl.createPostgres look tr.templateDir (Table.ofJson v)).run.run.mapError .template := by
  have hop : operationOf v = .ok .create := by
    simp [operationOf, h, Operation.parse]
  rw [Translator.translate_run, hop]
  rfl

namespace Ddl

open Template

/-- PostgreSQL's CREATE TABLE with the index template of a directory `d`, its
`create-index.sql` when that is a regular file and the bundled template otherwise. A table
without indexes reads no template, in any monad, and gets its statement alone. Otherwise a
template that fails to compile is the fault; then the first index, in order, whose block fails to
render; and when every block renders, the blocks follow the statement in order, each on a line of
its own, empty ones left out. Rendering the blocks together is rendering each index's block on
its own, and translating a description of type `create` gives this result for the normalised
table, its faults passed on as template faults. -/
theorem createPostgres_with_template_dir (fs : String → Id Entry) (d : String) (t : Table) :
    (indexTemplate fs (some d)).run.run =
        (if (fs (Path.join d indexTemplateFile)).isFile then
          (ofFile fs (Path.join d indexTemplateFile)).run.run
        else ofText bundledIndexTemplate) ∧
      (t.indexes = [] →
        ∀ {m : Type → Type} [Monad m] [LawfulMonad m] (look : String → m Entry),
          createPostgres look (some d) t = pure (postgresLayout t [])) ∧
      (∀ e, t.indexes ≠ [] → (indexTemplate fs (some d)).run.run = .error e →
        (createPostgres fs (some d) t).run.run = .error e) ∧
      (∀ tpl, (indexTemplate fs (some d)).run.run = .ok tpl →
        (∀ pre i post e, t.indexes = pre ++ i :: post →
            (∀ j ∈ pre, ∃ b, tpl.renderNamed (indexParams t j) = .ok b) →
            tpl.renderNamed (indexParams t i) = .error e →
            (createPostgres fs (some d) t).run.run = .error e) ∧
          ∀ blocks, List.Forall₂ (fun i b => tpl.renderNamed (indexParams t i) = .ok b)
              t.indexes blocks →
            (createPostgres fs (some d) t).run.run =
              .ok (postgresLayout t [] ++
                String.join ((blocks.filter (!·.isEmpty)).map ("\n" ++ ·)))) ∧
      (indexBlocks fs (some d) t).run.run =
        t.indexes.mapM (fun i => (createIndex fs (some d) t i).run.run) ∧
      ∀ v, v.get? "type" = some (.str "create") →
        (({ templateDir := some d } : Translator).translate fs .postgres v).run.run =
          (createPostgres fs (some d) (Table.ofJson v)).run.run.mapError .template :=
  ⟨indexTemplate_some_run fs d,
    fun h _ _ _ look => createPostgres_no_indexes look (some d) h,
    fun _ h he => createPostgres_template_error fs (some d) t h he,
    fun _ ht =>
      ⟨fun _ _ _ _ hi hpre he => createPostgres_first_block_error fs (some d) t ht hi hpre he,
        fun _ hb => createPostgres_blocks fs (some d) t ht hb⟩,
    indexBlocks_eq_mapM_createIndex fs (some d) t,
    fun v h => Translator.translate_create_run _ fs v h⟩

end Ddl

end TableDdl
