-- What the reader of table descriptions guarantees for every document: the optional texts it keeps
-- are non-empty, lengths positive and indexes have a column, the sort key `""` of `[""]` apart;
-- columns and indexes are the items that describe one, in order.
import Mathlib
import TableDdl.Table.Normalize

namespace TableDdl

/-! ## What a normalised table looks like -/

/-- A column as the reader keeps it: a length is positive and an encoding is not empty. -/
structure Column.Normalized (c : Column) : Prop where
  length_pos : ∀ n ∈ c.length, 1 ≤ n
  encode_ne_empty : ∀ e ∈ c.encode, e ≠ ""

/-- A table as the reader keeps it, its sort key aside: optional texts are not empty, columns are
normalised and every index has a column. -/
structure Table.Normalized (t : Table) : Prop where
  description_ne_empty : ∀ s ∈ t.description, s ≠ ""
  distStyle_ne_empty : ∀ s ∈ t.options.distStyle, s ≠ ""
  distKey_ne_empty : ∀ s ∈ t.options.distKey, s ≠ ""
  columns : ∀ c ∈ t.columns, c.Normalized
  indexes_ne_nil : ∀ i ∈ t.indexes, i.columns ≠ []

/-- The items of an array member of a document; none when the member is missing or no array. -/
def Json.arrayMember (key : String) (v : Json) : List Json :=
  match v.get? key with
  | some (.arr items) => items
  | _ => []

/-- Whether a document is an object. -/
def Json.isObject (j : Json) : Bool :=
  j.members?.isSome

/-- Whether an item of `indexes` gives an index: a non-empty string, or an array with a string
item. -/
def Json.isIndexEntry : Json → Bool
  | .str s => !s.isEmpty
  | .arr items => items.any (·.str?.isSome)
  | _ => false

/-- The columns an item of `indexes` names: a string names itself, an array its string items. -/
def Json.entryColumns : Json → List String
  | .str s => [s]
  | .arr items => items.filterMap Json.str?
  | _ => []

/-- Decimal digits after an optional `+`, with the value `n` below `2 ^ 64`. -/
def DecimalU64 (cs : List Char) (n : Nat) : Prop :=
  ∃ ds, (cs = ds ∨ cs = '+' :: ds) ∧ ds ≠ [] ∧ (∀ c ∈ ds, c.isDigit) ∧
    Nat.ofDigits 10 (ds.reverse.map fun c => c.toNat - '0'.toNat) = n ∧ n < 2 ^ 64

namespace Describe

/-! ## Optional texts -/

theorem optionalText_ne_empty (o : List (String × Json)) (key : String) :
    ∀ s ∈ optionalText o key, s ≠ "" := by
  intro s hs
  unfold optionalText at hs
  split at hs
  · split_ifs at hs with he
    · cases hs
    · cases hs
      simpa [String.isEmpty_iff] using he
  · cases hs

/-! ## Lengths -/

theorem isDigit_eq (c : Char) : isDigit c = c.isDigit := by
  simp [isDigit, Char.isDigit, Char.le_def]

/-- Decimal digits read from the left are the digits of `Nat.ofDigits` read from the right. -/
theorem digitsValue_eq_ofDigits (ds : List Char) :
    digitsValue ds = Nat.ofDigits 10 (ds.reverse.map fun c => c.toNat - '0'.toNat) := by
  rw [digitsValue, List.foldl_eq_foldr_reverse]
  induction ds.reverse with
  | nil => rfl
  | cons c r ih =>
    have h0 : '0'.toNat = 48 := rfl
    rw [List.foldr_cons, ih, List.map_cons, Nat.ofDigits_cons]
    omega

/-- A length written as text: decimal digits after an optional `+`, inside blanks, of a value
below `2 ^ 64`. -/
theorem parseU64?_eq_some_iff (s : String) (n : Nat) :
    parseU64? s = some n ↔ DecimalU64 (Text.trimBlanks s.toList) n := by
  unfold parseU64? DecimalU64
  generalize Text.trimBlanks s.toList = cs
  -- a leading `+` is dropped, and any other first character must itself be a digit
  rcases cs with _ | ⟨c, r⟩
  · simp
  · by_cases hc : c = '+'
    · subst hc
      simp [isDigit_eq, digitsValue_eq_ofDigits]
      grind
    · simp [hc, isDigit_eq, digitsValue_eq_ofDigits]
      grind

/-- A length is what the member gives, a number that is an unsigned 64-bit integer or a text
that reads as one, unless that is zero. -/
theorem length_eq_some_iff (o : List (String × Json)) (n : Nat) :
    length o = some n ↔ 1 ≤ n ∧
      ((∃ m, findMember "length" o = some (.num m) ∧ m.toU64? = some n) ∨
        ∃ s, findMember "length" o = some (.str s) ∧ parseU64? s = some n) := by
  unfold length
  cases hm : findMember "length" o with
  | none => simp
  | some j =>
    cases j with
    | num m =>
      -- zero is read as no length, any other value as itself
      rcases hr : m.toU64? with _ | _ | k <;> simp [hr] <;> omega
    | str s =>
      rcases hr : parseU64? s with _ | _ | k <;> simp [hr] <;> omega
    | _ => simp

theorem length_pos (o : List (String × Json)) : ∀ n ∈ length o, 1 ≤ n :=
  fun n h => ((length_eq_some_iff o n).mp h).1

/-! ## Sort keys -/

/-- Texts joined by commas are empty only when there is one text and it is empty. -/
theorem intercalate_comma_eq_empty_iff {keys : List String} (h : keys ≠ []) :
    ",".intercalate keys = "" ↔ keys = [""] := by
  rcases keys with _ | ⟨k, _ | ⟨k', rest⟩⟩
  · exact absurd rfl h
  · simp [String.intercalate_singleton]
  · -- two keys or more hold a comma
    rw [String.intercalate_cons_cons]
    simp [String.append_eq_empty_iff]

/-- A list of keys is the empty text only for an array whose one string item is empty. -/
theorem keyList_eq_some_empty_iff (o : List (String × Json)) (key : String) :
    keyList o key = some "" ↔
      ∃ items, findMember key o = some (.arr items) ∧ stringItems items = [""] := by
  have htext : optionalText o key ≠ some "" := fun h => optionalText_ne_empty o key "" h rfl
  unfold keyList
  split
  · rename_i items hfind
    by_cases hk : (stringItems items).isEmpty
    · have hnil : stringItems items = [] := List.isEmpty_iff.mp hk
      simp [hfind, hnil]
    · have hne : stringItems items ≠ [] := fun h => by simp [h] at hk
      simp [hfind, hk, intercalate_comma_eq_empty_iff hne]
  · rename_i hnot
    simp only [htext, false_iff, not_exists, not_and]
    exact fun items h => absurd h (hnot items)

/-! ## Indexes -/

/-- An array names no column exactly when none of its items is a string. -/
theorem stringItems_eq_nil_iff (items : List Json) :
    stringItems items = [] ↔ items.any (·.str?.isSome) = false := by
  simp [stringItems, List.filterMap_eq_nil_iff, Option.eq_none_iff_forall_ne_some,
    Option.isSome_iff_exists]

/-- An item of `indexes` gives the index of the columns it names, when it names any. -/
theorem index?_eq (j : Json) :
    index? j = if j.isIndexEntry then some ⟨j.entryColumns⟩ else none := by
  cases j with
  | str s => by_cases hs : s = "" <;> simp [index?, Json.isIndexEntry, Json.entryColumns, hs]
  | arr items =>
    show (if (stringItems items).isEmpty then none else some (Index.mk (stringItems items))) =
      if items.any (·.str?.isSome) then some (Index.mk (stringItems items)) else none
    by_cases hany : items.any (·.str?.isSome) <;>
      simp [hany, List.isEmpty_iff, stringItems_eq_nil_iff]
  | _ => simp [index?, Json.isIndexEntry]

theorem entryColumns_ne_nil {j : Json} (h : j.isIndexEntry) : j.entryColumns ≠ [] := by
  cases j with
  | str s => simp [Json.entryColumns]
  | arr items =>
    show stringItems items ≠ []
    rw [Ne, stringItems_eq_nil_iff, Bool.not_eq_false]
    exact h
  | _ => simp [Json.isIndexEntry] at h

/-- The items of `indexes` that name a column give the indexes, in order. -/
theorem filterMap_index? (items : List Json) :
    (items.filterMap index?).map Index.columns =
      (items.filter Json.isIndexEntry).map Json.entryColumns := by
  induction items with
  | nil => rfl
  | cons j items ih =>
    rw [List.filterMap_cons, index?_eq]
    by_cases hj : j.isIndexEntry <;> simp [hj, ih]

end Describe

/-! ## Columns -/

theorem Column.isSome_ofJson? (j : Json) : (Column.ofJson? j).isSome = j.isObject := by
  cases j <;> rfl

theorem Column.ofJson?_normalized {j : Json} {c : Column} (h : Column.ofJson? j = some c) :
    c.Normalized := by
  cases j with
  | obj o =>
    cases h
    exact ⟨Describe.length_pos o, Describe.optionalText_ne_empty o "encode"⟩
  | _ => cases h

/-- A column's length is `n` exactly when `n` is positive and the member `length` is a number
that is the unsigned 64-bit integer `n`, or a text that is `n` in decimal digits, after an
optional `+` and inside blanks. Anything else is no length: zero, a negative or fractional
number, a double even when whole, a text out of range or not in digits, a truth value, an array
or an object. -/
theorem Column.length_ofJson_eq_some_iff (o : List (String × Json)) (n : Nat) :
    (Column.ofJson? (.obj o)).bind Column.length = some n ↔ 1 ≤ n ∧
      ((∃ m, (Json.obj o).get? "length" = some (.num m) ∧ m.toU64? = some n) ∨
        ∃ s, (Json.obj o).get? "length" = some (.str s) ∧
          DecimalU64 (Text.trimBlanks s.toList) n) := by
  simp only [Column.ofJson?, Option.bind_some, Json.get?, Describe.length_eq_some_iff,
    Describe.parseU64?_eq_some_iff]

example :
    (Column.ofJson? (.obj [("length", .str "\u3000+0042 ")])).bind Column.length = some 42 := by
  decide +kernel

example : (Column.ofJson? (.obj [("length", .str "-0")])).bind Column.length = none := by
  decide +kernel

/-! ## Tables -/

namespace Table

/-- The sort key is the empty text only for an array whose one string item is empty. -/
theorem sortKey_eq_some_empty_iff (v : Json) :
    (ofJson v).options.sortKey = some "" ↔
      ∃ items, v.get? "sortKey" = some (.arr items) ∧ items.filterMap Json.str? = [""] := by
  cases v with
  | obj o => exact Describe.keyList_eq_some_empty_iff o "sortKey"
  | _ => simp [ofJson, Json.get?]

/-- The columns are the object items of `columns`, each read as a column, in order. -/
theorem ofJson_columns (v : Json) :
    (ofJson v).columns.map some =
      ((v.arrayMember "columns").filter Json.isObject).map Column.ofJson? := by
  cases v with
  | obj o =>
    simp only [ofJson, Json.arrayMember, Json.get?]
    cases findMember "columns" o with
    | none => rfl
    | some j =>
      cases j with
      | arr items =>
        simp only [List.map_filterMap_some_eq_filter_map_isSome, List.filter_map,
          Function.comp_def, Column.isSome_ofJson?]
      | _ => rfl
  | _ => rfl

/-- The indexes are the items of `indexes` that name a column, in order, each on the columns it
names. -/
theorem ofJson_indexes (v : Json) :
    (ofJson v).indexes.map Index.columns =
      ((v.arrayMember "indexes").filter Json.isIndexEntry).map Json.entryColumns := by
  cases v with
  | obj o =>
    simp only [ofJson, Json.arrayMember, Json.get?]
    cases findMember "indexes" o with
    | none => rfl
    | some j =>
      cases j with
      | arr items => exact Describe.filterMap_index? items
      | _ => rfl
  | _ => rfl

/-- A table read from any document is normalised, its sort key aside: each column and index
comes from one item of the document, read as the reader reads it. -/
theorem ofJson_normalized (v : Json) : (ofJson v).Normalized := by
  have hcols : ∀ c ∈ (ofJson v).columns, c.Normalized := by
    intro c hc
    have hsome : some c ∈ ((v.arrayMember "columns").filter Json.isObject).map Column.ofJson? := by
      rw [← ofJson_columns]
      exact List.mem_map_of_mem hc
    obtain ⟨j, -, hj⟩ := List.mem_map.mp hsome
    exact Column.ofJson?_normalized hj
  have hidx : ∀ i ∈ (ofJson v).indexes, i.columns ≠ [] := by
    intro i hi
    have hmem : i.columns ∈
        ((v.arrayMember "indexes").filter Json.isIndexEntry).map Json.entryColumns := by
      rw [← ofJson_indexes]
      exact List.mem_map_of_mem hi
    obtain ⟨j, hj, hji⟩ := List.mem_map.mp hmem
    exact hji ▸ Describe.entryColumns_ne_nil (List.mem_filter.mp hj).2
  cases v with
  | obj o =>
    exact ⟨Describe.optionalText_ne_empty o _, Describe.optionalText_ne_empty o _,
      Describe.optionalText_ne_empty o _, hcols, hidx⟩
  | _ => exact ⟨nofun, nofun, nofun, hcols, hidx⟩

/-- A table read from any document is normalised, except that its sort key is the empty text
for an array whose one string item is empty; its columns are the object items of `columns`, read
in order, and its indexes the items of `indexes` that name a column, in order, each on the
string items it names. -/
theorem ofJson_normal_form (v : Json) :
    (ofJson v).Normalized ∧
      ((ofJson v).options.sortKey = some "" ↔
        ∃ items, v.get? "sortKey" = some (.arr items) ∧ items.filterMap Json.str? = [""]) ∧
      (ofJson v).columns.map some =
        ((v.arrayMember "columns").filter Json.isObject).map Column.ofJson? ∧
      (ofJson v).indexes.map Index.columns =
        ((v.arrayMember "indexes").filter Json.isIndexEntry).map Json.entryColumns :=
  ⟨ofJson_normalized v, sortKey_eq_some_empty_iff v, ofJson_columns v, ofJson_indexes v⟩

/-- The sort key `[""]` is read as the empty text. -/
theorem ofJson_sortKey_empty_item :
    (ofJson (.obj [("sortKey", .arr [.str ""])])).options.sortKey = some "" :=
  (sortKey_eq_some_empty_iff _).mpr ⟨[.str ""], rfl, rfl⟩

end Table

end TableDdl
