-- The operation that `translate` is told to use when a description names none. The command fills
-- it in only where `type` is missing or null, so an empty `type` is still refused as missing.
import TableDdl.Cli.Commands
import TableDdl.Proofs.CreateTable
import TableDdl.Proofs.SingleKeys

namespace TableDdl

/-! ## The translator's missing operation -/

/-- A statement generated for a known operation is never refused for a missing operation: its
only faults are those of the index template. -/
theorem Translator.generate_ne_missing (tr : Translator) (look : String → Id Entry) (d : Dialect)
    (op : Operation) (t : Table) :
    (tr.generate look d op t).run.run ≠ .error .missingOperation := by
  cases d with
  | postgres =>
    cases op
    show Except.mapError TranslateError.template
      (Ddl.createPostgres look tr.templateDir t).run.run ≠ _
    cases (Ddl.createPostgres look tr.templateDir t).run.run <;> simp [Except.mapError]
  | redshift =>
    cases op
    simp [generate]

/-- A missing or null type is a missing operation, and so is the empty one. -/
theorem operationOf_eq_missing_iff (v : Json) :
    operationOf v = .error .missingOperation ↔
      v.get? "type" = none ∨ v.get? "type" = some .null ∨ v.get? "type" = some (.str "") := by
  unfold operationOf
  rcases v.get? "type" with _ | (_ | b | n | s | items | ms)
  case some.str =>
    unfold Operation.parse
    by_cases hc : s = "create"
    · simp [hc]
    · by_cases he : s = ""
      · simp [he]
      · simp [hc, he, String.isEmpty_iff]
  all_goals simp

/-- A description is refused for a missing operation exactly when its type names none. -/
theorem Translator.translate_eq_missing_iff (tr : Translator) (look : String → Id Entry)
    (d : Dialect) (v : Json) :
    (tr.translate look d v).run.run = .error .missingOperation ↔
      operationOf v = .error .missingOperation := by
  rw [Translator.translate_run]
  cases hop : operationOf v with
  | ok op => simpa using tr.generate_ne_missing look d op (Table.ofJson v)
  | error e => simp

/-! ## Filling in the operation -/

namespace Cli

theorem withOperation_type (op : String) (ms : List (String × Json))
    (h : findMember "type" ms = none ∨ findMember "type" ms = some .null) :
    (withOperation op (.obj ms)).get? "type" = some (.str op) := by
  rcases h with h | h <;> simp [withOperation, h, Json.get?, findMember_setMember_self]

theorem withOperation_of_named (op : String) {ms : List (String × Json)} {t : Json}
    (hfind : findMember "type" ms = some t) (ht : t.isNull = false) :
    withOperation op (.obj ms) = .obj ms := by
  cases t <;> simp_all [withOperation, Json.isNull]

/-- With `create` filled in, a description is refused for a missing operation exactly when it is
no object, or its type is the empty string: the command leaves an empty type in place, and the
translator takes it for none. -/
theorem translate_withOperation_missing_iff (tr : Translator) (look : String → Id Entry)
    (d : Dialect) (v : Json) :
    (tr.translate look d (withOperation "create" v)).run.run = .error .missingOperation ↔
      v.members? = none ∨ v.get? "type" = some (.str "") := by
  rw [Translator.translate_eq_missing_iff, operationOf_eq_missing_iff]
  cases v with
  | obj ms =>
    cases hfind : findMember "type" ms with
    | none =>
      rw [withOperation_type "create" ms (.inl hfind)]
      simp [Json.members?, Json.get?, hfind]
    | some t =>
      cases t with
      | null =>
        rw [withOperation_type "create" ms (.inr hfind)]
        simp [Json.members?, Json.get?, hfind]
      | _ =>
        rw [withOperation_of_named "create" hfind rfl]
        simp [Json.members?, Json.get?, hfind]
  | _ => simp [withOperation, Json.members?, Json.get?]

/-- A description of type `""` is refused for a missing operation though `create` is filled in. -/
theorem translate_withOperation_empty_type :
    (({} : Translator).translate (m := Id) (fun _ => pure .absent) .postgres
        (withOperation "create" (.obj [("type", .str "")]))).run.run =
      .error .missingOperation :=
  rfl

end Cli

end TableDdl
