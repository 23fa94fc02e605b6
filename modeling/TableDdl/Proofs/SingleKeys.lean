-- A key written as one string or as the array of that one string: the primary key, the sort key
-- and each item of `indexes` read alike both ways, but for the empty string, which the scalar
-- form takes for no key while the array keeps it.
import TableDdl.Table.Normalize

namespace TableDdl

/-! ## Setting a member -/

theorem findMember_setMember_self (key : String) (v : Json) (o : List (String × Json)) :
    findMember key (setMember key v o) = some v := by
  induction o with
  | nil => simp [setMember, findMember]
  | cons kw o ih =>
    obtain ⟨k, w⟩ := kw
    by_cases hk : k = key
    · simp [setMember, findMember, hk]
    · simp [setMember, findMember, hk, ih]

theorem findMember_setMember_of_ne {key k : String} (h : k ≠ key) (v : Json)
    (o : List (String × Json)) :
    findMember k (setMember key v o) = findMember k o := by
  induction o with
  | nil => simp [setMember, findMember, Ne.symm h]
  | cons kw o ih =>
    obtain ⟨k', w⟩ := kw
    by_cases hk : k' = key
    · subst hk
      simp [setMember, findMember, Ne.symm h]
    · simp [setMember, findMember, hk, ih]

/-! ## The fields a key is read into -/

namespace Table

/-- Setting `primaryKey` changes the primary key alone. -/
theorem ofJson_setMember_primaryKey (v : Json) (o : List (String × Json)) :
    ofJson (.obj (setMember "primaryKey" v o)) =
      { ofJson (.obj o) with primaryKey := Describe.primaryKey (some v) } := by
  simp [ofJson, Describe.text, Describe.optionalText, Describe.keyList,
    findMember_setMember_self, findMember_setMember_of_ne]

/-- Setting `sortKey` changes the sort key alone. -/
theorem ofJson_setMember_sortKey (v : Json) (o : List (String × Json)) :
    ofJson (.obj (setMember "sortKey" v o)) =
      { ofJson (.obj o) with
        options :=
          { (ofJson (.obj o)).options with sortKey := Describe.keyList [("sortKey", v)] "sortKey" } } := by
  simp [ofJson, Describe.text, Describe.optionalText, Describe.keyList, findMember,
    findMember_setMember_self, findMember_setMember_of_ne]

/-- Setting `indexes` to an array changes the indexes alone. -/
theorem ofJson_setMember_indexes (items : List Json) (o : List (String × Json)) :
    ofJson (.obj (setMember "indexes" (.arr items) o)) =
      { ofJson (.obj o) with indexes := items.filterMap Describe.index? } := by
  simp [ofJson, Describe.text, Describe.optionalText, Describe.keyList,
    findMember_setMember_self, findMember_setMember_of_ne]

end Table

/-! ## The two forms of a key -/

/-- A primary key written as a string reads as the one-string array exactly when the string is
not empty. -/
theorem ofJson_primaryKey_forms (o : List (String × Json)) (s : String) :
    Table.ofJson (.obj (setMember "primaryKey" (.str s) o)) =
        Table.ofJson (.obj (setMember "primaryKey" (.arr [.str s]) o)) ↔ s ≠ "" := by
  rw [Table.ofJson_setMember_primaryKey, Table.ofJson_setMember_primaryKey]
  by_cases hs : s = ""
  · subst hs
    simp [Describe.primaryKey, Describe.stringItems, Json.str?]
  · simp [hs, Describe.primaryKey, Describe.stringItems, Json.str?]

/-- A sort key written as a string reads as the one-string array exactly when the string is not
empty. -/
theorem ofJson_sortKey_forms (o : List (String × Json)) (s : String) :
    Table.ofJson (.obj (setMember "sortKey" (.str s) o)) =
        Table.ofJson (.obj (setMember "sortKey" (.arr [.str s]) o)) ↔ s ≠ "" := by
  rw [Table.ofJson_setMember_sortKey, Table.ofJson_setMember_sortKey]
  by_cases hs : s = ""
  · subst hs
    simp [Describe.keyList, Describe.optionalText, Describe.stringItems, findMember, Json.str?]
  · simp [hs, Describe.keyList, Describe.optionalText, Describe.stringItems, findMember, Json.str?]

/-- An item of `indexes` written as a string reads as the one-string array exactly when the
string is not empty, wherever the item stands among the others. -/
theorem ofJson_index_forms (o : List (String × Json)) (pre post : List Json) (s : String) :
    Table.ofJson (.obj (setMember "indexes" (.arr (pre ++ .str s :: post)) o)) =
        Table.ofJson (.obj (setMember "indexes" (.arr (pre ++ .arr [.str s] :: post)) o)) ↔
      s ≠ "" := by
  rw [Table.ofJson_setMember_indexes, Table.ofJson_setMember_indexes]
  by_cases hs : s = ""
  · subst hs
    simp [Describe.index?, Describe.stringItems, Json.str?]
  · simp [hs, Describe.index?, Describe.stringItems, Json.str?]

/-! ## The empty string -/

/-- The empty string as a primary key is no key, while the array of it is the key of one empty
name. -/
theorem ofJson_primaryKey_empty (o : List (String × Json)) :
    (Table.ofJson (.obj (setMember "primaryKey" (.str "") o))).primaryKey = [] ∧
      (Table.ofJson (.obj (setMember "primaryKey" (.arr [.str ""]) o))).primaryKey = [""] := by
  simp [Table.ofJson_setMember_primaryKey, Describe.primaryKey, Describe.stringItems, Json.str?]

/-- The empty string as a sort key is no sort key, while the array of it is the empty sort key. -/
theorem ofJson_sortKey_empty (o : List (String × Json)) :
    (Table.ofJson (.obj (setMember "sortKey" (.str "") o))).options.sortKey = none ∧
      (Table.ofJson (.obj (setMember "sortKey" (.arr [.str ""]) o))).options.sortKey = some "" := by
  simp [Table.ofJson_setMember_sortKey, Describe.keyList, Describe.optionalText,
    Describe.stringItems, findMember, Json.str?]

/-- An item `""` of `indexes` is left out, while an item `[""]` is an index on the column `""`, in
its place among the others. -/
theorem ofJson_index_empty (o : List (String × Json)) (pre post : List Json) :
    Table.ofJson (.obj (setMember "indexes" (.arr (pre ++ .str "" :: post)) o)) =
        Table.ofJson (.obj (setMember "indexes" (.arr (pre ++ post)) o)) ∧
      (Table.ofJson (.obj (setMember "indexes" (.arr (pre ++ .arr [.str ""] :: post)) o))).indexes =
        (Table.ofJson (.obj (setMember "indexes" (.arr pre) o))).indexes ++
          ⟨[""]⟩ :: (Table.ofJson (.obj (setMember "indexes" (.arr post) o))).indexes := by
  simp [Table.ofJson_setMember_indexes, Describe.index?, Describe.stringItems, Json.str?]

/-- A primary key, a sort key or an item of `indexes` written as a string reads as the array of
that one string exactly when the string is not empty, whatever the rest of the object. The empty
string is no key (no primary key, no sort key, the item left out), while the array of it keeps
it (the key `[""]`, the sort key `""`, an index on the column `""` in the item's place). -/
theorem ofJson_single_key_forms (o : List (String × Json)) (s : String) (pre post : List Json) :
    (Table.ofJson (.obj (setMember "primaryKey" (.str s) o)) =
        Table.ofJson (.obj (setMember "primaryKey" (.arr [.str s]) o)) ↔ s ≠ "") ∧
    (Table.ofJson (.obj (setMember "sortKey" (.str s) o)) =
        Table.ofJson (.obj (setMember "sortKey" (.arr [.str s]) o)) ↔ s ≠ "") ∧
    (Table.ofJson (.obj (setMember "indexes" (.arr (pre ++ .str s :: post)) o)) =
        Table.ofJson (.obj (setMember "indexes" (.arr (pre ++ .arr [.str s] :: post)) o)) ↔
      s ≠ "") ∧
    (Table.ofJson (.obj (setMember "primaryKey" (.str "") o))).primaryKey = [] ∧
    (Table.ofJson (.obj (setMember "primaryKey" (.arr [.str ""]) o))).primaryKey = [""] ∧
    (Table.ofJson (.obj (setMember "sortKey" (.str "") o))).options.sortKey = none ∧
    (Table.ofJson (.obj (setMember "sortKey" (.arr [.str ""]) o))).options.sortKey = some "" ∧
    Table.ofJson (.obj (setMember "indexes" (.arr (pre ++ .str "" :: post)) o)) =
      Table.ofJson (.obj (setMember "indexes" (.arr (pre ++ post)) o)) ∧
    (Table.ofJson (.obj (setMember "indexes" (.arr (pre ++ .arr [.str ""] :: post)) o))).indexes =
      (Table.ofJson (.obj (setMember "indexes" (.arr pre) o))).indexes ++
        ⟨[""]⟩ :: (Table.ofJson (.obj (setMember "indexes" (.arr post) o))).indexes := by
  obtain ⟨hpk, hpk'⟩ := ofJson_primaryKey_empty o
  obtain ⟨hsk, hsk'⟩ := ofJson_sortKey_empty o
  obtain ⟨hix, hix'⟩ := ofJson_index_empty o pre post
  exact ⟨ofJson_primaryKey_forms o s, ofJson_sortKey_forms o s, ofJson_index_forms o pre post s,
    hpk, hpk', hsk, hsk', hix, hix'⟩

/-- The empty string as a key is no key, while the array of it is the key of one empty name. -/
theorem ofJson_empty_key_forms :
    (Table.ofJson (.obj [("primaryKey", .str "")])).primaryKey = [] ∧
      (Table.ofJson (.obj [("primaryKey", .arr [.str ""])])).primaryKey = [""] ∧
      (Table.ofJson (.obj [("sortKey", .str "")])).options.sortKey = none ∧
      (Table.ofJson (.obj [("sortKey", .arr [.str ""])])).options.sortKey = some "" ∧
      (Table.ofJson (.obj [("indexes", .arr [.str ""])])).indexes = [] ∧
      (Table.ofJson (.obj [("indexes", .arr [.arr [.str ""]])])).indexes = [⟨[""]⟩] := by
  decide +kernel

end TableDdl
