-- SQL dialects, named in any ASCII case: `postgres` or `postgresql`, or `redshift`.

namespace TableDdl

/-- A target SQL dialect. -/
inductive Dialect where
  | postgres
  | redshift
  deriving DecidableEq, Repr, Inhabited

/-- A name that is no dialect, as the user wrote it in lower case. -/
structure UnknownDialect where
  lowered : String
  deriving DecidableEq, Repr

/-- The wording of an unknown dialect. -/
def UnknownDialect.message (e : UnknownDialect) : String :=
  "Unsupported SQL dialect: " ++ e.lowered ++ ". Please specify one of: postgres, redshift."

namespace Dialect

/-- The name a dialect is shown with. -/
def name : Dialect → String
  | .postgres => "postgres"
  | .redshift => "redshift"

/-- The dialect a name stands for, in any ASCII case. -/
def parse (s : String) : Except UnknownDialect Dialect :=
  let l := s.toLower
  if l = "postgres" ∨ l = "postgresql" then .ok .postgres
  else if l = "redshift" then .ok .redshift
  else .error ⟨l⟩

/-- The dialect a configuration names, in exactly these spellings. -/
def ofConfigName? (s : String) : Option Dialect :=
  if s = "postgres" ∨ s = "postgresql" then some .postgres
  else if s = "redshift" then some .redshift
  else none

end Dialect

end TableDdl
