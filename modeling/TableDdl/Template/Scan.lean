-- Reading template text into segments, left to right. Adjacent text is merged, a name is the
-- longest run of name characters after `:`, and positions count bytes of the UTF-8 text.
import TableDdl.Template.Segment
import TableDdl.Template.Error

namespace TableDdl.Template

theorem length_dropWhile_le (p : Char → Bool) (l : List Char) :
    (l.dropWhile p).length ≤ l.length :=
  (List.dropWhile_suffix p).length_le

/-- Closes the pending text, kept last character first, as a segment unless it is empty. -/
def flushText (buf : List Char) (out : List Segment) : List Segment :=
  if buf.isEmpty then out else .text (String.ofList buf.reverse) :: out

/-- Reads `cs`, which starts at byte offset `pos`; `buf` is the pending text and `out` the segments
read so far, both last first. -/
def scanFrom (cs : List Char) (pos : Nat) (buf : List Char) (out : List Segment) :
    Except Error (List Segment) :=
  match cs with
  | [] => .ok (flushText buf out).reverse
  | c :: rest =>
    if c = '%' then
      match rest with
      | [] => .error (.unknownPlaceholder "" pos)
      | d :: more =>
        if d = '%' then scanFrom more (pos + 2) ('%' :: buf) out
        else
          match Kind.ofLetter? d with
          | none => .error (.unknownPlaceholder (String.singleton d) pos)
          | some k =>
            match more with
            | ':' :: n :: after =>
              if isNameChar n then
                let name := n :: after.takeWhile isNameChar
                scanFrom (after.dropWhile isNameChar) (pos + 3 + name.length) []
                  (.hole ⟨k, some (String.ofList name), pos⟩ :: flushText buf out)
              else
                scanFrom (':' :: n :: after) (pos + 2) []
                  (.hole ⟨k, none, pos⟩ :: flushText buf out)
            | other => scanFrom other (pos + 2) [] (.hole ⟨k, none, pos⟩ :: flushText buf out)
    else scanFrom rest (pos + c.utf8Size) (c :: buf) out
termination_by cs.length
decreasing_by
  all_goals simp only [List.length_cons]
  all_goals first
    | omega
    | exact Nat.lt_of_le_of_lt (length_dropWhile_le _ _) (by omega)

/-- The segments of a template text, or the first unknown placeholder. -/
def scan (text : String) : Except Error (List Segment) :=
  scanFrom text.toList 0 [] []

/-- The placeholders of a template text, in order. -/
def placeholdersOf (text : String) : Except Error (List Placeholder) :=
  (scan text).map holes

end TableDdl.Template
