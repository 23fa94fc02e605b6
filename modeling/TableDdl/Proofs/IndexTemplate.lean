-- The bundled index template, read and rendered: it compiles without a file, and with an index's
-- parameters gives one fixed text around them, so index blocks never fail without a template
-- directory.
import TableDdl.Proofs.ScanRoundTrip
import TableDdl.Ddl.Postgres

namespace TableDdl.Ddl

open Template

/-! ## The template as segments -/

/-- The segments of the bundled index template: three guard literals, then the four names of the
`create index` line. -/
def bundledIndexSegments : List Segment :=
  [.text "do\n$$\nbegin\nif not exists (\n    select indexname\n        from pg_indexes\n    where schemaname = ",
   .hole ⟨.literal, some "schema", 96⟩,
   .text "\n        and tablename = ",
   .hole ⟨.literal, some "table", 130⟩,
   .text "\n        and indexname = ",
   .hole ⟨.literal, some "indexName", 163⟩,
   .text "\n)\nthen\n    create index ",
   .hole ⟨.ident, some "indexName", 200⟩,
   .text " ON ",
   .hole ⟨.ident, some "schema", 216⟩,
   .text ".",
   .hole ⟨.ident, some "table", 226⟩,
   .text "(",
   .hole ⟨.ident, some "columns", 235⟩,
   .text ");\nend if;\nend\n$$;\n"]

theorem canonical_bundledIndexSegments : Canonical bundledIndexSegments := by
  decide

theorem placedFrom_bundledIndexSegments : PlacedFrom 0 bundledIndexSegments := by
  decide

-- The kernel alone compares the two character lists; elaborating the same check first would
-- evaluate them twice. Decoding the template's four literals one by one is cheaper than decoding
-- their concatenation.
theorem sourceOf_bundledIndexSegments :
    sourceOf bundledIndexSegments = bundledIndexTemplate.toList := by
  unfold bundledIndexTemplate
  rw [String.toList_append, String.toList_append, String.toList_append]
  decide +kernel

/-- The bundled template reads as `bundledIndexSegments`: written back, the segments give the
template, and a canonical list placed from offset 0 reads back as itself. -/
theorem scan_bundledIndexTemplate : scan bundledIndexTemplate = .ok bundledIndexSegments := by
  have h : scanFrom (sourceOf bundledIndexSegments) 0 [] [] =
      .ok ((flushText [] []).reverse ++ bundledIndexSegments) :=
    scanFrom_sourceOf canonical_bundledIndexSegments placedFrom_bundledIndexSegments (.inl rfl)
  rw [sourceOf_bundledIndexSegments] at h
  exact h

theorem ofText_bundledIndexTemplate :
    Template.ofText bundledIndexTemplate = .ok ⟨bundledIndexSegments⟩ := by
  rw [Template.ofText, scan_bundledIndexTemplate]
  rfl

/-- Without a template directory the index template is the bundled one, and no file is read. -/
theorem indexTemplate_none {m : Type → Type} [Monad m] (look : String → m Entry) :
    (indexTemplate look none).run = pure (.ok ⟨bundledIndexSegments⟩) := by
  simp only [indexTemplate, liftResult, ofText_bundledIndexTemplate]
  rfl

/-! ## Rendering an index's block -/

/-- A string constant as a template writes it: the constant without the `E` of an escape
string. -/
def templateLiteralOf (s : String) : String :=
  Sql.stripEscapePrefix (Sql.quoteLiteral s)

/-- The block of an index as the bundled template lays it out, before NUL characters are
dropped: the `pg_indexes` guard compares the schema, the table and the derived index name as
constants, and the `create index` line names them, with the columns, as identifiers. -/
def bundledIndexBlock (t : Table) (i : Index) : String :=
  "do\n$$\nbegin\nif not exists (\n    select indexname\n        from pg_indexes\n    where schemaname = " ++
  templateLiteralOf t.schema ++ "\n        and tablename = " ++ templateLiteralOf t.table ++
  "\n        and indexname = " ++ templateLiteralOf (i.derivedName t.table) ++
  "\n)\nthen\n    create index " ++ Sql.quoteIdent (i.derivedName t.table) ++ " ON " ++
  Sql.quoteIdent t.schema ++ "." ++ Sql.quoteIdent t.table ++ "(" ++ Sql.quoteIdents i.columns ++
  ");\nend if;\nend\n$$;\n"

/-- The parameters of an index, sorted by name. -/
theorem indexParams_eq (t : Table) (i : Index) :
    indexParams t i =
      [("columns", .list (i.columns.map .text)), ("indexName", .text (i.derivedName t.table)),
       ("schema", .text t.schema), ("table", .text t.table)] :=
  rfl

/-- A list of texts names its items one by one: texts are never null. -/
theorem Value.identifiers?_map_text (l : List String) :
    Value.identifiers? (l.map .text) = some (l.map Sql.quoteIdent) := by
  induction l with
  | nil => rfl
  | cons s l ih => simp [Value.identifiers?, ih, Value.identifier?, Value.scalarText]

theorem renderHole_literal_text (n : Option String) (pos : Nat) (s : String) :
    renderHole ⟨.literal, n, pos⟩ (.text s) = .ok (templateLiteralOf s) :=
  rfl

theorem renderHole_ident_text (n : Option String) (pos : Nat) (s : String) :
    renderHole ⟨.ident, n, pos⟩ (.text s) = .ok (Sql.quoteIdent s) :=
  rfl

theorem renderHole_ident_texts (n : Option String) (pos : Nat) (l : List String) :
    renderHole ⟨.ident, n, pos⟩ (.list (l.map .text)) = .ok (Sql.quoteIdents l) := by
  simp [renderHole, Value.identifier?, Value.identifiers?_map_text, Sql.quoteIdents]

/-- Each placeholder of the bundled template finds its value among an index's parameters. -/
theorem resolve_bundledIndex (t : Table) (i : Index) :
    (⟨bundledIndexSegments⟩ : Template).resolve (indexParams t i) =
      .ok [.text t.schema, .text t.table, .text (i.derivedName t.table),
        .text (i.derivedName t.table), .text t.schema, .text t.table,
        .list (i.columns.map .text)] := by
  simp [indexParams_eq, Template.resolve, Template.placeholders, bundledIndexSegments, holes,
    Params.get?]
  rfl

theorem renderSegments_bundledIndex (t : Table) (i : Index) :
    renderSegments bundledIndexSegments 0
      [.text t.schema, .text t.table, .text (i.derivedName t.table),
        .text (i.derivedName t.table), .text t.schema, .text t.table,
        .list (i.columns.map .text)] = .ok (bundledIndexBlock t i) := by
  simp only [bundledIndexSegments, renderSegments, renderHole_literal_text, renderHole_ident_text,
    renderHole_ident_texts, bind, Except.bind, pure, Except.pure]
  -- the rendered text ends in the empty rest; the block is the same text associated the other way
  rw [String.append_empty]
  unfold bundledIndexBlock
  simp only [String.append_assoc]

/-- Every index renders through the bundled template, to its block with NUL characters dropped. -/
theorem renderNamed_bundledIndex (t : Table) (i : Index) :
    (⟨bundledIndexSegments⟩ : Template).renderNamed (indexParams t i) =
      .ok (dropNul (bundledIndexBlock t i)) := by
  rw [Template.renderNamed, resolve_bundledIndex]
  show (renderSegments bundledIndexSegments 0 _).map dropNul = _
  rw [renderSegments_bundledIndex]
  rfl

/-- Without a template directory every index renders through the bundled template, in order, and
a table without indexes reads no template at all. -/
theorem indexBlocks_none {m : Type → Type} [Monad m] [LawfulMonad m] (look : String → m Entry)
    (t : Table) :
    (indexBlocks look none t).run =
      pure (.ok (t.indexes.map fun i => dropNul (bundledIndexBlock t i))) := by
  unfold indexBlocks
  by_cases h : t.indexes.isEmpty
  · -- no index, so the template is never read
    rw [if_pos h, List.isEmpty_iff.mp h]
    rfl
  · have hrender : (fun i => (⟨bundledIndexSegments⟩ : Template).renderNamed (indexParams t i)) =
        fun i => pure (dropNul (bundledIndexBlock t i)) :=
      funext fun i => renderNamed_bundledIndex t i
    rw [if_neg h, ExceptT.run_bind, indexTemplate_none, pure_bind]
    simp only [hrender, List.mapM_pure, liftResult, ExceptT.run_mk]
    rfl

end TableDdl.Ddl
