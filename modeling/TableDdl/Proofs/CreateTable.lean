-- The text of a CREATE TABLE statement, piece by piece: every non-empty piece after the head
-- stands on a line of its own. Without a template directory, translating a description of type
-- `create` always succeeds with that text.
import TableDdl.Proofs.IndexTemplate
import TableDdl.Translate

namespace TableDdl.Ddl

open Template

/-! ## Joining pieces -/

/-- A piece on a line of its own after what precedes it; nothing for an empty piece. -/
def onNewLine (s : String) : String :=
  if s = "" then "" else "\n" ++ s

@[simp]
theorem onNewLine_empty : onNewLine "" = "" :=
  rfl

theorem onNewLine_of_ne {s : String} (h : s ≠ "") : onNewLine s = "\n" ++ s :=
  if_neg h

theorem intercalate_newline_cons (s : String) (l : List String) :
    "\n".intercalate (s :: l) = s ++ String.join (l.map ("\n" ++ ·)) := by
  induction l generalizing s with
  | nil => simp
  | cons u l ih => simp [ih, String.append_assoc]

theorem join_filter_newline (l : List String) :
    String.join ((l.filter (!·.isEmpty)).map ("\n" ++ ·)) = String.join (l.map onNewLine) := by
  induction l with
  | nil => rfl
  | cons a l ih =>
    by_cases ha : a = ""
    · simp [ha, ih]
    · simp [ha, onNewLine_of_ne ha, ih]

/-- After a non-empty first piece, each non-empty piece follows on a line of its own. -/
theorem joinPieces_cons {s : String} (l : List String) (h : s ≠ "") :
    joinPieces (s :: l) = s ++ String.join (l.map onNewLine) := by
  have hs : (!s.isEmpty) = true := by simpa [String.isEmpty_iff] using h
  simp only [joinPieces, List.filter_cons, hs, if_true]
  rw [intercalate_newline_cons, join_filter_newline]

/-- Pieces joined and put on a new line are each put on a new line. -/
theorem onNewLine_joinPieces (l : List String) :
    onNewLine (joinPieces l) = String.join (l.map onNewLine) := by
  induction l with
  | nil => rfl
  | cons a l ih =>
    by_cases ha : a = ""
    · -- an empty first piece is dropped
      have hdrop : joinPieces ("" :: l) = joinPieces l := by
        simp [joinPieces]
      simp [ha, hdrop, ih]
    · have hne : a ++ String.join (l.map onNewLine) ≠ "" := by
        simp [String.append_eq_empty_iff, ha]
      rw [joinPieces_cons l ha, onNewLine_of_ne hne, List.map_cons, String.join_cons,
        onNewLine_of_ne ha, String.append_assoc]

/-! ## The pieces of a statement -/

theorem intercalate_cons_ne_empty (sep : String) {s : String} (l : List String) (h : s ≠ "") :
    sep.intercalate (s :: l) ≠ "" := by
  cases l with
  | nil => simpa using h
  | cons u l => simp [String.append_eq_empty_iff, h]

theorem head_ne_empty (t : Table) : head t ≠ "" := by
  intro h
  unfold head at h
  simp only [String.append_assoc, String.append_eq_empty_iff] at h
  exact absurd h.1 (by decide)

/-- A column line is never empty: a blank separates the name from the type. -/
theorem columnLine_ne_empty (withEncoding : Bool) (c : Column) : columnLine withEncoding c ≠ "" := by
  intro h
  unfold columnLine at h
  simp only [String.append_assoc, String.append_eq_empty_iff] at h
  exact absurd h.2.1 (by decide)

/-- The column lines are there exactly when the table has columns. -/
theorem columnBlock_eq_empty_iff (withEncoding : Bool) (t : Table) :
    columnBlock withEncoding t = "" ↔ t.columns = [] := by
  unfold columnBlock
  cases t.columns with
  | nil => simp
  | cons c cs =>
    simpa using intercalate_cons_ne_empty ",\n" (cs.map (columnLine withEncoding))
      (columnLine_ne_empty withEncoding c)

theorem onNewLine_pieceIf (c : Bool) {s : String} (h : s ≠ "") :
    onNewLine (pieceIf c s) = pieceIf c ("\n" ++ s) := by
  cases c
  · rfl
  · exact onNewLine_of_ne h

/-- The primary key clause on a line of its own, or nothing for an empty key. -/
def keyClause (t : Table) : String :=
  if t.primaryKey = [] then "" else "\n,PRIMARY KEY(" ++ Sql.quoteIdents t.primaryKey ++ ")"

theorem onNewLine_primaryKeyPiece (t : Table) : onNewLine (primaryKeyPiece t) = keyClause t := by
  unfold primaryKeyPiece keyClause Table.hasPrimaryKey
  by_cases hk : t.primaryKey = []
  · simp [hk]
  · have hne : ",PRIMARY KEY(" ++ Sql.quoteIdents t.primaryKey ++ ")" ≠ "" := by
      simp [String.append_eq_empty_iff]
    rw [if_neg hk, if_pos (by simpa using hk), onNewLine_of_ne hne]
    simp only [← String.append_assoc, String.reduceAppend]

/-- Redshift's storage options, each on a line of its own and only when set: the style, then the
distribution key, then the sort key. -/
def optionClauses (o : StorageOptions) : String :=
  (o.distStyle.map ("\nDISTSTYLE " ++ ·)).getD "" ++
    (o.distKey.map fun k => "\nDISTKEY(" ++ k ++ ")").getD "" ++
    (o.sortKey.map fun k => "\nSORTKEY(" ++ k ++ ")").getD ""

theorem onNewLine_option (f : String → String) (hf : ∀ k, f k ≠ "") (o : Option String) :
    onNewLine ((o.map f).getD "") = (o.map fun k => "\n" ++ f k).getD "" := by
  cases o with
  | none => rfl
  | some k => exact onNewLine_of_ne (hf k)

theorem onNewLine_tableOptions (o : StorageOptions) :
    onNewLine (tableOptions o) = optionClauses o := by
  have hstyle : ∀ k, "DISTSTYLE " ++ k ≠ "" := by
    simp [String.append_eq_empty_iff]
  have hkey : ∀ k, "DISTKEY(" ++ k ++ ")" ≠ "" := by
    simp [String.append_eq_empty_iff]
  have hsort : ∀ k, "SORTKEY(" ++ k ++ ")" ≠ "" := by
    simp [String.append_eq_empty_iff]
  rw [tableOptions, onNewLine_joinPieces]
  simp only [List.map_cons, List.map_nil, String.join_cons, String.join_nil,
    onNewLine_option _ hstyle, onNewLine_option _ hkey, onNewLine_option _ hsort]
  rw [String.append_empty]
  simp only [optionClauses, ← String.append_assoc, String.reduceAppend]

/-! ## The statement -/

/-- What follows the head. A table with columns has `(`, its column lines, the key clause, `)`,
the options and `;`, each on a line of its own; a table without columns has only the key clause
and the options. -/
def tableBody (withEncoding : Bool) (t : Table) (options : String) : String :=
  if t.columns = [] then keyClause t ++ options
  else
    "\n(\n" ++ ",\n".intercalate (t.columns.map (columnLine withEncoding)) ++ keyClause t ++
      "\n)" ++ options ++ "\n;"

/-- The index blocks rendered from the bundled template, each on a line of its own. -/
def indexClauses (t : Table) : String :=
  String.join (t.indexes.map fun i => "\n" ++ dropNul (bundledIndexBlock t i))

/-- The CREATE TABLE statement of a table in a dialect: the head naming the table, the body,
and for PostgreSQL the index blocks, for Redshift the storage options in the body. -/
def createTableText : Dialect → Table → String
  | .postgres, t =>
    "CREATE TABLE IF NOT EXISTS " ++ Sql.quoteIdent t.schema ++ "." ++ Sql.quoteIdent t.table ++
      tableBody false t "" ++ indexClauses t
  | .redshift, t =>
    "CREATE TABLE IF NOT EXISTS " ++ Sql.quoteIdent t.schema ++ "." ++ Sql.quoteIdent t.table ++
      tableBody true t (optionClauses t.options)

/-- The pieces after the head, each put on a line of its own, are the body, with the option
pieces in the place of the options. -/
theorem join_bodyPieces (withEncoding : Bool) (t : Table) (opts : List String) :
    String.join (([pieceIf (!t.columns.isEmpty) "(", columnBlock withEncoding t, primaryKeyPiece t,
        pieceIf (!t.columns.isEmpty) ")"] ++ opts ++ [pieceIf (!t.columns.isEmpty) ";"]).map
          onNewLine) =
      tableBody withEncoding t (String.join (opts.map onNewLine)) := by
  simp only [List.map_append, List.map_cons, List.map_nil, String.join_append, String.join_cons,
    String.join_nil, String.append_empty]
  rw [onNewLine_pieceIf _ (by decide), onNewLine_pieceIf _ (by decide),
    onNewLine_pieceIf _ (by decide), onNewLine_primaryKeyPiece]
  unfold tableBody
  by_cases hc : t.columns = []
  · -- without columns, the parentheses, the column lines and `;` are all empty pieces
    have hblock : columnBlock withEncoding t = "" :=
      (columnBlock_eq_empty_iff withEncoding t).mpr hc
    simp [hc, hblock, pieceIf]
  · have hblock : columnBlock withEncoding t ≠ "" :=
      fun h => hc ((columnBlock_eq_empty_iff withEncoding t).mp h)
    have hcols : (!t.columns.isEmpty) = true := by
      simpa [List.isEmpty_iff] using hc
    rw [onNewLine_of_ne hblock]
    simp only [hc, hcols, pieceIf, ↓reduceIte, columnBlock, ← String.append_assoc,
      String.reduceAppend]

theorem postgresLayout_eq (t : Table) (blocks : List String) (hb : ∀ b ∈ blocks, b ≠ "") :
    postgresLayout t blocks =
      head t ++ tableBody false t "" ++ String.join (blocks.map ("\n" ++ ·)) := by
  have hblocks : blocks.map onNewLine = blocks.map ("\n" ++ ·) :=
    List.map_congr_left fun b h => onNewLine_of_ne (hb b h)
  have hbody := join_bodyPieces false t []
  simp only [List.append_nil, List.map_nil, String.join_nil] at hbody
  -- the head is never empty, so every later piece that is there starts a line of its own
  rw [postgresLayout, List.cons_append, joinPieces_cons _ (head_ne_empty t), List.map_append,
    String.join_append, hblocks]
  simp only [List.cons_append, List.nil_append] at hbody
  rw [hbody, String.append_assoc]

theorem createRedshift_eq (t : Table) :
    createRedshift t = createTableText .redshift t := by
  have hopts : String.join ([tableOptions t.options].map onNewLine) = optionClauses t.options := by
    rw [List.map_singleton, String.join_cons, String.join_nil, String.append_empty,
      onNewLine_tableOptions]
  have hbody := join_bodyPieces true t [tableOptions t.options]
  simp only [List.cons_append, List.nil_append] at hbody
  rw [createRedshift, joinPieces_cons _ (head_ne_empty t), hbody, hopts]
  rfl

theorem dropNul_append (a b : String) : dropNul (a ++ b) = dropNul a ++ dropNul b := by
  simp [dropNul, String.toList_append, List.filter_append]

/-- A rendered index block is never empty: it opens with `do`. -/
theorem dropNul_bundledIndexBlock_ne_empty (t : Table) (i : Index) :
    dropNul (bundledIndexBlock t i) ≠ "" := by
  intro h
  unfold bundledIndexBlock at h
  simp only [dropNul_append, String.append_assoc, String.append_eq_empty_iff] at h
  exact absurd h.1 (by decide +kernel)

/-- Without a template directory, CREATE TABLE for PostgreSQL reads no file and always succeeds. -/
theorem createPostgres_none {m : Type → Type} [Monad m] [LawfulMonad m] (look : String → m Entry)
    (t : Table) :
    (createPostgres look none t).run = pure (Except.ok (createTableText .postgres t)) := by
  have hb : ∀ b ∈ t.indexes.map (fun i => dropNul (bundledIndexBlock t i)), b ≠ "" := by
    intro b hb
    obtain ⟨i, -, rfl⟩ := List.mem_map.mp hb
    exact dropNul_bundledIndexBlock_ne_empty t i
  rw [createPostgres, ExceptT.run_bind, indexBlocks_none, pure_bind]
  show pure (Except.ok (postgresLayout t _)) = _
  rw [postgresLayout_eq t _ hb, List.map_map]
  rfl

end TableDdl.Ddl

namespace TableDdl

open Ddl

/-! ## Translating a description -/

/-- What translating a description gives, by its `type`: a missing, null or empty type is a
missing operation; `create` gives the statement of the normalised table; any other text is an
unknown operation, and so is any other value, shown as its compact text. -/
def translation (d : Dialect) (v : Json) : Except TranslateError String :=
  match v.get? "type" with
  | none | some .null | some (.str "") => .error .missingOperation
  | some (.str "create") => .ok (createTableText d (Table.ofJson v))
  | some (.str s) => .error (.unknownOperation s)
  | some j => .error (.unknownOperation j.write)

theorem Translator.translate_run (tr : Translator) (look : String → Id Entry) (d : Dialect)
    (v : Json) :
    (tr.translate look d v).run.run = match operationOf v with
      | .ok op => (tr.generate look d op (Table.ofJson v)).run.run
      | .error e => .error e := by
  simp only [Translator.translate, ExceptT.run_bind, liftResult, ExceptT.run_mk]
  cases operationOf v <;> rfl

/-- Without a template directory, creating a table always succeeds, with its statement. -/
theorem Translator.generate_create (look : String → Id Entry) (d : Dialect) (t : Table) :
    (({} : Translator).generate look d .create t).run.run = .ok (createTableText d t) := by
  cases d with
  | postgres =>
    show (Except.mapError TranslateError.template <$> (createPostgres look none t).run).run = _
    rw [createPostgres_none]
    rfl
  | redshift =>
    show Except.ok (createRedshift t) = _
    rw [createRedshift_eq]

/-- Translating a description, with the default translator on any file system or with the free
function, gives what `translation` says: the operation is read from `type` first, and `create`
never fails, with the dialect's CREATE TABLE statement of the normalised table. -/
theorem translate_eq_translation (d : Dialect) (v : Json) :
    (∀ look : String → Id Entry,
        (({} : Translator).translate look d v).run.run = translation d v) ∧
      translate d v = translation d v := by
  have hrun : ∀ look : String → Id Entry,
      (({} : Translator).translate look d v).run.run = translation d v := by
    intro look
    rw [Translator.translate_run]
    unfold operationOf translation
    rcases v.get? "type" with _ | (_ | b | n | s | items | members)
    case some.str =>
      -- a text names the operation: `create`, nothing, or an unknown one
      unfold Operation.parse
      by_cases hc : s = "create"
      · subst hc
        exact Translator.generate_create look d _
      · by_cases he : s = ""
        · subst he
          rfl
        · simp [hc, he, String.isEmpty_iff]
    all_goals rfl
  exact ⟨hrun, hrun _⟩

end TableDdl
