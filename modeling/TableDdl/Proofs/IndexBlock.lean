-- An index block of the bundled template, as its text with seven texts in its places. The dollar
-- quotes of a block are the template's two and those its names bring in.
import Mathlib
import TableDdl.Proofs.RenderPositional
import TableDdl.Proofs.SqlReading
import TableDdl.Proofs.CreateTable

namespace TableDdl

open Template

/-! ## Dollar quotes in text -/

namespace Sql

/-- The number of places at which `$$` starts in a text, overlapping ones counted. -/
def dollarPairs : List Char → Nat
  | [] => 0
  | [_] => 0
  | c :: d :: rest => (if c = '$' ∧ d = '$' then 1 else 0) + dollarPairs (d :: rest)

theorem dollarPairs_cons (c : Char) (l : List Char) :
    dollarPairs (c :: l) = (if c = '$' ∧ l.head? = some '$' then 1 else 0) + dollarPairs l := by
  cases l with
  | nil => simp [dollarPairs]
  | cons d rest => simp [dollarPairs]

/-- Joining two texts adds a `$$` exactly when a `$` ends the first and one starts the second. -/
theorem dollarPairs_append (a b : List Char) :
    dollarPairs (a ++ b) =
      dollarPairs a + dollarPairs b + (if a.getLast? = some '$' ∧ b.head? = some '$' then 1 else 0) := by
  induction a with
  | nil => simp [dollarPairs]
  | cons c a ih =>
    cases a with
    | nil => simp [dollarPairs_cons, dollarPairs, Nat.add_comm]
    | cons d a =>
      -- the pair at the front is the same on both sides; the rest is the induction
      rw [List.cons_append, dollarPairs_cons, ih, dollarPairs_cons c (d :: a)]
      simp only [List.cons_append, List.head?_cons, List.getLast?_cons_cons, Option.some.injEq]
      split_ifs <;> omega

theorem dollarPairs_append_of_getLast {a : List Char} (h : a.getLast? ≠ some '$') (b : List Char) :
    dollarPairs (a ++ b) = dollarPairs a + dollarPairs b := by
  simp [dollarPairs_append, h]

theorem dollarPairs_append_of_head {b : List Char} (h : b.head? ≠ some '$') (a : List Char) :
    dollarPairs (a ++ b) = dollarPairs a + dollarPairs b := by
  simp [dollarPairs_append, h]

/-- Doubling a character other than `$` neither makes nor breaks a `$$`. -/
theorem dollarPairs_doubling {q : Char} (hq : q ≠ '$') (l : List Char) :
    dollarPairs (doubling q l) = dollarPairs l := by
  induction l with
  | nil => rfl
  | cons c l ih =>
    by_cases hc : c = q
    · subst hc
      simp [doubling_cons, dollarPairs_cons, hq, ih]
    · simp [doubling_cons, hc, dollarPairs_cons, head?_doubling, ih]

/-- Quotes other than `$` around a text add no `$$`. -/
theorem dollarPairs_enclosed {c d : Char} (hc : c ≠ '$') (hd : d ≠ '$') (l : List Char) :
    dollarPairs (c :: (l ++ [d])) = dollarPairs l := by
  rw [dollarPairs_cons, dollarPairs_append_of_head (by simpa using hd)]
  simp [hc, dollarPairs]

/-- Texts joined by a separator other than `$` hold the `$$` of the texts. -/
theorem dollarPairs_intercalate {c : Char} (hc : c ≠ '$') (ls : List (List Char)) :
    dollarPairs ([c].intercalate ls) = (ls.map dollarPairs).sum := by
  induction ls with
  | nil => rfl
  | cons a ls ih =>
    cases ls with
    | nil => simp
    | cons b ls =>
      rw [List.intercalate_cons_cons, List.append_assoc,
        dollarPairs_append_of_head (by simpa using hc), List.singleton_append, dollarPairs_cons, ih]
      simp [hc]

/-- Dropping characters other than the separator drops them from each text. -/
theorem filter_intercalate {c : Char} {f : Char → Bool} (hc : f c = true) (ls : List (List Char)) :
    ([c].intercalate ls).filter f = [c].intercalate (ls.map (·.filter f)) := by
  induction ls with
  | nil => rfl
  | cons a ls ih =>
    cases ls with
    | nil => simp
    | cons b ls =>
      rw [List.intercalate_cons_cons, List.filter_append, List.filter_append, ih]
      simp [hc, List.intercalate_cons_cons]

end Sql

open Sql

/-! ## Segments with texts in their places -/

/-- Whether no text among segments holds the character `c`. -/
def textsAvoid (c : Char) : List Segment → Bool
  | [] => true
  | .text s :: rest => !s.toList.contains c && textsAvoid c rest
  | .hole _ :: rest => textsAvoid c rest

/-- Dropping NUL characters from woven text drops them from the texts put in, when the segments'
own texts hold none. -/
theorem dropNul_weave {segs : List Segment} (h : textsAvoid '\x00' segs = true) (xs : List String) :
    dropNul (weave segs xs) = weave segs (xs.map dropNul) := by
  induction segs generalizing xs with
  | nil => rfl
  | cons seg rest ih =>
    cases seg with
    | text s =>
      simp [textsAvoid] at h
      rw [weave, weave, Ddl.dropNul_append, dropNul_eq_self h.1, ih h.2]
    | hole p =>
      cases xs with
      | nil => exact ih h []
      | cons x xs => rw [List.map_cons, weave, weave, Ddl.dropNul_append, ih h xs]

/-- Segments in which every placeholder stands between two texts: the one before it does not end
with `$`, and the one after it is not empty and does not start with `$`. -/
def dollarGuarded : List Segment → Bool
  | [.text _] => true
  | .text s :: .hole _ :: .text t :: rest =>
    s.toList.getLast? != some '$' && t.toList.head?.any (· != '$') &&
      dollarGuarded (.text t :: rest)
  | _ => false

theorem head?_weave_text {t : String} (ht : t.toList.head?.any (· != '$') = true)
    (rest : List Segment) (xs : List String) :
    (weave (.text t :: rest) xs).toList.head? ≠ some '$' := by
  cases hl : t.toList with
  | nil => simp [hl] at ht
  | cons c l =>
    simp only [hl, List.head?_cons, Option.any_some, bne_iff_ne, ne_eq] at ht
    simp [weave, hl, ht]

/-- In guarded segments the texts put in hold their own `$$` and make no new one with the
segments' text. -/
theorem dollarPairs_weave {segs : List Segment} (h : dollarGuarded segs = true) (xs : List String)
    (hxs : xs.length = (holes segs).length) :
    dollarPairs (weave segs xs).toList =
      dollarPairs (weave segs (xs.map fun _ => "")).toList + (xs.map (dollarPairs ·.toList)).sum := by
  induction segs using dollarGuarded.induct generalizing xs with
  | case1 s =>
    cases xs with
    | nil => simp [weave]
    | cons x xs => simp [holes] at hxs
  | case2 s p t rest ih =>
    simp only [dollarGuarded, Bool.and_eq_true, bne_iff_ne, ne_eq] at h
    obtain ⟨⟨hs, ht⟩, hrest⟩ := h
    cases xs with
    | nil => simp [holes] at hxs
    | cons x xs =>
      have hxs' : xs.length = (holes (.text t :: rest)).length := by simpa [holes] using hxs
      have hsplit : ∀ y ys, weave (.text s :: .hole p :: .text t :: rest) (y :: ys) =
          s ++ (y ++ weave (.text t :: rest) ys) := fun _ _ => rfl
      -- the text before the placeholder ends, and the text after it starts, with no `$`
      simp only [List.map_cons, hsplit, String.toList_append, String.toList_empty, List.nil_append,
        dollarPairs_append_of_getLast hs, dollarPairs_append_of_head (head?_weave_text ht rest _),
        ih hrest xs hxs', List.sum_cons]
      omega
  | case3 segs hne => simp [dollarGuarded] at h

/-! ## Index blocks -/

namespace Ddl

/-- The seven texts that an index block puts in the places of the bundled template: the guard's
constants for the schema, the table and the index name, then the index, schema and table names
and the column list of the `create index` line. -/
structure IndexFill where
  schemaConst : String
  tableConst : String
  indexConst : String
  indexIdent : String
  schemaIdent : String
  tableIdent : String
  columnIdents : String

namespace IndexFill

/-- The texts in the order of the template's placeholders. -/
def toList (f : IndexFill) : List String :=
  [f.schemaConst, f.tableConst, f.indexConst, f.indexIdent, f.schemaIdent, f.tableIdent,
    f.columnIdents]

/-- The bundled template's text with the texts in its places. -/
def block (f : IndexFill) : String :=
  weave bundledIndexSegments f.toList

/-- What the block of an index puts in the places, NUL characters dropped. -/
def ofIndex (t : Table) (i : Index) : IndexFill where
  schemaConst := dropNul (templateLiteralOf t.schema)
  tableConst := dropNul (templateLiteralOf t.table)
  indexConst := dropNul (templateLiteralOf (i.derivedName t.table))
  indexIdent := dropNul (Sql.quoteIdent (i.derivedName t.table))
  schemaIdent := dropNul (Sql.quoteIdent t.schema)
  tableIdent := dropNul (Sql.quoteIdent t.table)
  columnIdents := dropNul (Sql.quoteIdents i.columns)

end IndexFill

theorem bundledIndexBlock_eq_weave (t : Table) (i : Index) :
    bundledIndexBlock t i =
      weave bundledIndexSegments
        [templateLiteralOf t.schema, templateLiteralOf t.table,
          templateLiteralOf (i.derivedName t.table), Sql.quoteIdent (i.derivedName t.table),
          Sql.quoteIdent t.schema, Sql.quoteIdent t.table, Sql.quoteIdents i.columns] := by
  simp only [bundledIndexSegments, weave, String.append_empty]
  unfold bundledIndexBlock
  simp only [String.append_assoc]

/-- The rendered block of an index, NUL characters dropped, is the template's text with the
index's texts in its places: the template's own text holds no NUL. -/
theorem dropNul_bundledIndexBlock (t : Table) (i : Index) :
    dropNul (bundledIndexBlock t i) = (IndexFill.ofIndex t i).block := by
  have hnul : textsAvoid '\x00' bundledIndexSegments = true := by decide +kernel
  rw [bundledIndexBlock_eq_weave, dropNul_weave hnul]
  rfl

section Generator

variable {m : Type → Type} [Monad m] [LawfulMonad m] (look : String → m Entry)

/-- Without a template directory, the block of an index is the bundled template's text with the
index's texts in its places. -/
theorem createIndex_none (t : Table) (i : Index) :
    (createIndex look none t i).run = pure (.ok (IndexFill.ofIndex t i).block) := by
  rw [createIndex, ExceptT.run_bind, indexTemplate_none, pure_bind]
  show pure (Template.renderNamed _ _) = _
  rw [renderNamed_bundledIndex, dropNul_bundledIndexBlock]

/-- Without a template directory, the PostgreSQL statement is the head, the body and the block
of each index, each block on a line of its own. -/
theorem createPostgres_none_blocks (t : Table) :
    (createPostgres look none t).run =
      pure (.ok ("CREATE TABLE IF NOT EXISTS " ++ Sql.quoteIdent t.schema ++ "." ++
        Sql.quoteIdent t.table ++ tableBody false t "" ++
        String.join (t.indexes.map fun i => "\n" ++ (IndexFill.ofIndex t i).block))) := by
  have hblocks : indexClauses t =
      String.join (t.indexes.map fun i => "\n" ++ (IndexFill.ofIndex t i).block) := by
    simp only [indexClauses, dropNul_bundledIndexBlock]
  rw [createPostgres_none]
  show pure (Except.ok (_ ++ indexClauses t)) = _
  rw [hblocks]

end Generator

/-! ## The dollar quotes of a block -/

/-- A block holds the template's two `$$` and those of the texts in its places. -/
theorem dollarPairs_block (f : IndexFill) :
    dollarPairs f.block.toList = 2 + (f.toList.map (dollarPairs ·.toList)).sum := by
  have hguard : dollarGuarded bundledIndexSegments = true := by decide +kernel
  have hbare : dollarPairs (weave bundledIndexSegments ["", "", "", "", "", "", ""]).toList = 2 := by
    decide +kernel
  rw [IndexFill.block, dollarPairs_weave hguard _ rfl]
  simp only [IndexFill.toList, List.map_cons, List.map_nil]
  rw [hbare]

/-- Dropping NUL characters from a text joined by a one-character separator other than `$` and NUL
leaves the `$$` of the texts without their NUL characters. -/
theorem dollarPairs_dropNul_intercalate {sep : String} {c : Char} (hsep : sep.toList = [c])
    (hc : c ≠ '$') (hn : c ≠ '\x00') (l : List String) :
    dollarPairs (dropNul (sep.intercalate l)).toList =
      (l.map fun s => dollarPairs (dropNul s).toList).sum := by
  rw [toList_dropNul, String.toList_intercalate, hsep, filter_intercalate (by simpa using hn),
    dollarPairs_intercalate hc, List.map_map, List.map_map]
  simp only [Function.comp_def, toList_dropNul]

theorem dollarPairs_dropNul_doubleBackslashes (s : String) :
    dollarPairs (dropNul (doubleBackslashes s)).toList = dollarPairs (dropNul s).toList := by
  rw [toList_dropNul, doubleBackslashes, String.toList_ofList, filter_doubling (by decide),
    dollarPairs_doubling (by decide), toList_dropNul]

/-- A guard constant holds the `$$` of its name. -/
theorem dollarPairs_dropNul_templateLiteralOf (s : String) :
    dollarPairs (dropNul (templateLiteralOf s)).toList = dollarPairs (dropNul s).toList := by
  rw [templateLiteralOf, toList_dropNul_stripEscapePrefix_quoteLiteral,
    dollarPairs_enclosed (by decide) (by decide), dollarPairs_doubling (by decide),
    dollarPairs_dropNul_doubleBackslashes]

/-- A quoted name holds the `$$` of the name. -/
theorem dollarPairs_dropNul_quoteIdent (s : String) :
    dollarPairs (dropNul (quoteIdent s)).toList = dollarPairs (dropNul s).toList := by
  unfold quoteIdent
  split
  · rfl
  · rw [toList_dropNul_delimitedIdent, dollarPairs_enclosed (by decide) (by decide),
      dollarPairs_doubling (by decide)]

theorem dollarPairs_dropNul_quoteIdents (l : List String) :
    dollarPairs (dropNul (quoteIdents l)).toList =
      (l.map fun s => dollarPairs (dropNul s).toList).sum := by
  rw [quoteIdents, dollarPairs_dropNul_intercalate (c := ',') rfl (by decide) (by decide),
    List.map_map]
  simp only [Function.comp_def, dollarPairs_dropNul_quoteIdent]

/-- An index name holds the `$$` of the table's name and of the columns. -/
theorem dollarPairs_dropNul_derivedName (i : Index) (table : String) :
    dollarPairs (dropNul (i.derivedName table)).toList =
      dollarPairs (dropNul table).toList + (i.columns.map fun s => dollarPairs (dropNul s).toList).sum := by
  have hidx : dollarPairs (dropNul Index.suffix).toList = 0 := by decide +kernel
  rw [Index.derivedName, dollarPairs_dropNul_intercalate (c := '_') rfl (by decide) (by decide)]
  simp [hidx]

/-- The `$$` of an index block: the two of the `DO` body's delimiters, then each `$$` of the schema
twice, of the table four times and of each column three times, counted without NUL characters.
The block holds exactly two when no such name holds one. -/
theorem createIndex_dollarPairs {m : Type → Type} [Monad m] [LawfulMonad m]
    (look : String → m Entry) (t : Table) (i : Index) :
    (createIndex look none t i).run = pure (.ok (IndexFill.ofIndex t i).block) ∧
      dollarPairs (IndexFill.ofIndex t i).block.toList =
        2 + 2 * dollarPairs (dropNul t.schema).toList + 4 * dollarPairs (dropNul t.table).toList +
          3 * (i.columns.map fun c => dollarPairs (dropNul c).toList).sum ∧
      (dollarPairs (IndexFill.ofIndex t i).block.toList = 2 ↔
        ∀ n ∈ t.schema :: t.table :: i.columns, dollarPairs (dropNul n).toList = 0) := by
  have hcount : dollarPairs (IndexFill.ofIndex t i).block.toList =
      2 + 2 * dollarPairs (dropNul t.schema).toList + 4 * dollarPairs (dropNul t.table).toList +
        3 * (i.columns.map fun c => dollarPairs (dropNul c).toList).sum := by
    rw [dollarPairs_block]
    simp only [IndexFill.toList, IndexFill.ofIndex, List.map_cons, List.map_nil, List.sum_cons,
      List.sum_nil, dollarPairs_dropNul_templateLiteralOf, dollarPairs_dropNul_quoteIdent,
      dollarPairs_dropNul_quoteIdents, dollarPairs_dropNul_derivedName]
    omega
  refine ⟨createIndex_none look t i, hcount, ?_⟩
  rw [hcount, List.forall_mem_cons, List.forall_mem_cons]
  have hcols : (i.columns.map fun c => dollarPairs (dropNul c).toList).sum = 0 ↔
      ∀ c ∈ i.columns, dollarPairs (dropNul c).toList = 0 := by
    simp [List.sum_eq_zero_iff_forall_eq_nat]
  rw [← hcols]
  omega

/-- Plain names keep the block's `$$` to the two of its body. -/
theorem createIndex_dollarPairs_plain_names :
    dollarPairs (IndexFill.ofIndex { schema := "s", table := "t", indexes := [⟨["c"]⟩] }
      ⟨["c"]⟩).block.toList = 2 :=
  (createIndex_dollarPairs (m := Id) (fun _ => .absent)
    { schema := "s", table := "t", indexes := [⟨["c"]⟩] } ⟨["c"]⟩).2.2.mpr (by decide +kernel)

/-- A table named `a$$b` puts four more `$$` into its index block: the guard's constants for the
table and the index name, and the names of the `create index` line. -/
theorem createIndex_dollarPairs_table :
    (createIndex (m := Id) (fun _ => .absent) none
        { schema := "s", table := "a$$b", indexes := [⟨["c"]⟩] } ⟨["c"]⟩).run =
      pure (.ok (IndexFill.ofIndex { schema := "s", table := "a$$b", indexes := [⟨["c"]⟩] }
        ⟨["c"]⟩).block) ∧
      dollarPairs (IndexFill.ofIndex { schema := "s", table := "a$$b", indexes := [⟨["c"]⟩] }
        ⟨["c"]⟩).block.toList = 6 := by
  refine ⟨createIndex_none _ _ _, ?_⟩
  rw [dollarPairs_block]
  simp only [IndexFill.toList, IndexFill.ofIndex, List.map_cons, List.map_nil, List.sum_cons,
    List.sum_nil, dollarPairs_dropNul_templateLiteralOf, dollarPairs_dropNul_quoteIdent,
    dollarPairs_dropNul_quoteIdents, dollarPairs_dropNul_derivedName]
  decide +kernel

end Ddl

end TableDdl
