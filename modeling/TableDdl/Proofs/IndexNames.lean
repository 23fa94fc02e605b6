-- The names that the PostgreSQL statement gives the schema, the table and an index, read back by
-- SQL's rules: the guard looks up the index's own names exactly when they hold no backslash, and
-- the block names the head's schema and table exactly when they hold no NUL.
import TableDdl.Proofs.IndexBlock

namespace TableDdl.Ddl

open Template Sql

/-- How the places of an index block read: each guard constant as its name with every backslash
doubled, and each identifier as its name, all without NUL characters. -/
structure IndexFill.Reads (f : IndexFill) (schema table index : String) : Prop where
  schemaConst : constantText? f.schemaConst = some (dropNul (doubleBackslashes schema))
  tableConst : constantText? f.tableConst = some (dropNul (doubleBackslashes table))
  indexConst : constantText? f.indexConst = some (dropNul (doubleBackslashes index))
  indexIdent : identName? f.indexIdent = some (dropNul index)
  schemaIdent : identName? f.schemaIdent = some (dropNul schema)
  tableIdent : identName? f.tableIdent = some (dropNul table)

/-- Where the names of an index block agree: each guard constant with the identifier of its name
exactly when the name has no backslash, and the identifiers of the schema and the table with the
head's exactly when the name has no NUL. -/
structure IndexFill.Agrees (f : IndexFill) (schema table index : String) : Prop where
  schemaGuard : constantText? f.schemaConst = identName? f.schemaIdent ↔ '\\' ∉ schema.toList
  tableGuard : constantText? f.tableConst = identName? f.tableIdent ↔ '\\' ∉ table.toList
  indexGuard : constantText? f.indexConst = identName? f.indexIdent ↔ '\\' ∉ index.toList
  schemaHead : identName? f.schemaIdent = identName? (quoteIdent schema) ↔ '\x00' ∉ schema.toList
  tableHead : identName? f.tableIdent = identName? (quoteIdent table) ↔ '\x00' ∉ table.toList

theorem IndexFill.reads_ofIndex (t : Table) (i : Index) :
    (IndexFill.ofIndex t i).Reads t.schema t.table (i.derivedName t.table) where
  schemaConst := constantText?_dropNul_stripEscapePrefix t.schema
  tableConst := constantText?_dropNul_stripEscapePrefix t.table
  indexConst := constantText?_dropNul_stripEscapePrefix (i.derivedName t.table)
  indexIdent := identName?_dropNul_quoteIdent (i.derivedName t.table)
  schemaIdent := identName?_dropNul_quoteIdent t.schema
  tableIdent := identName?_dropNul_quoteIdent t.table

/-- Doubling backslashes changes a name, NUL characters dropped, exactly when it has one. -/
theorem dropNul_doubleBackslashes_eq_iff (s : String) :
    dropNul (doubleBackslashes s) = dropNul s ↔ '\\' ∉ s.toList := by
  rw [← String.toList_inj, toList_dropNul, toList_dropNul, doubleBackslashes, String.toList_ofList,
    filter_doubling (by decide), doubling_eq_self_iff, List.mem_filter]
  simp

/-- A guard constant and an identifier that read as one name agree exactly when the name has no
backslash. -/
theorem constantText?_eq_identName?_iff {c i s : String}
    (hc : constantText? c = some (dropNul (doubleBackslashes s)))
    (hi : identName? i = some (dropNul s)) :
    constantText? c = identName? i ↔ '\\' ∉ s.toList := by
  rw [hc, hi, Option.some_inj, dropNul_doubleBackslashes_eq_iff]

/-- An identifier that reads as a name without its NUL characters agrees with the head's quoting
of the name exactly when the name has no NUL. -/
theorem identName?_eq_quoteIdent_iff {i s : String} (hi : identName? i = some (dropNul s)) :
    identName? i = identName? (quoteIdent s) ↔ '\x00' ∉ s.toList := by
  rw [hi, identName?_quoteIdent, Option.some_inj, dropNul_eq_self_iff]

/-- What the names read as decides where they agree. -/
theorem IndexFill.Reads.agrees {f : IndexFill} {schema table index : String}
    (h : f.Reads schema table index) : f.Agrees schema table index where
  schemaGuard := constantText?_eq_identName?_iff h.schemaConst h.schemaIdent
  tableGuard := constantText?_eq_identName?_iff h.tableConst h.tableIdent
  indexGuard := constantText?_eq_identName?_iff h.indexConst h.indexIdent
  schemaHead := identName?_eq_quoteIdent_iff h.schemaIdent
  tableHead := identName?_eq_quoteIdent_iff h.tableIdent

/-- The PostgreSQL statement with the bundled template, read back. Its head names the schema and
the table by identifiers that read as those names. In the block of each index, the guard's
constants for the schema, the table and the index name read, with backslashes as ordinary
characters, as those names with every backslash doubled, and the identifiers of the
`create index` line as the names, all without NUL characters. So a guard constant and the
identifier of its name agree exactly when the name has no backslash, and the block's identifiers
agree with the head's exactly when the name has no NUL. -/
theorem createPostgres_names_read_back {m : Type → Type} [Monad m] [LawfulMonad m]
    (look : String → m Entry) (t : Table) :
    (createPostgres look none t).run =
        pure (.ok ("CREATE TABLE IF NOT EXISTS " ++ quoteIdent t.schema ++ "." ++
          quoteIdent t.table ++ tableBody false t "" ++
          String.join (t.indexes.map fun i => "\n" ++ (IndexFill.ofIndex t i).block))) ∧
      identName? (quoteIdent t.schema) = some t.schema ∧
      identName? (quoteIdent t.table) = some t.table ∧
      ∀ i ∈ t.indexes,
        (IndexFill.ofIndex t i).Reads t.schema t.table (i.derivedName t.table) ∧
          (IndexFill.ofIndex t i).Agrees t.schema t.table (i.derivedName t.table) :=
  ⟨createPostgres_none_blocks look t, identName?_quoteIdent t.schema,
    identName?_quoteIdent t.table,
    fun i _ => ⟨IndexFill.reads_ofIndex t i, (IndexFill.reads_ofIndex t i).agrees⟩⟩

/-- Names with neither a backslash nor a NUL read alike in the guard, the block and the head. -/
theorem createPostgres_names_read_back_plain :
    constantText? (IndexFill.ofIndex { schema := "s", table := "t", indexes := [⟨["c"]⟩] }
        ⟨["c"]⟩).schemaConst =
      identName? (quoteIdent "s") :=
  have hnames := (createPostgres_names_read_back (m := Id) (fun _ => .absent)
    { schema := "s", table := "t", indexes := [⟨["c"]⟩] }).2.2.2 ⟨["c"]⟩ List.mem_cons_self
  (hnames.2.schemaGuard.mpr (by decide)).trans (hnames.2.schemaHead.mpr (by decide))

/-- A schema named `a\b`: the guard's constant reads as `a\\b`, the identifier as `a\b`. -/
theorem createIndex_guard_doubles_backslash :
    (createIndex (m := Id) (fun _ => .absent) none
        { schema := "a\\b", table := "t", indexes := [⟨["c"]⟩] } ⟨["c"]⟩).run =
      pure (.ok (IndexFill.ofIndex { schema := "a\\b", table := "t", indexes := [⟨["c"]⟩] }
        ⟨["c"]⟩).block) ∧
      constantText? (IndexFill.ofIndex { schema := "a\\b", table := "t", indexes := [⟨["c"]⟩] }
        ⟨["c"]⟩).schemaConst = some "a\\\\b" ∧
      identName? (IndexFill.ofIndex { schema := "a\\b", table := "t", indexes := [⟨["c"]⟩] }
        ⟨["c"]⟩).schemaIdent = some "a\\b" := by
  have hreads := IndexFill.reads_ofIndex { schema := "a\\b", table := "t", indexes := [⟨["c"]⟩] }
    ⟨["c"]⟩
  refine ⟨createIndex_none _ _ _, ?_, ?_⟩
  · rw [hreads.schemaConst]
    decide +kernel
  · rw [hreads.schemaIdent]
    decide +kernel

end TableDdl.Ddl
