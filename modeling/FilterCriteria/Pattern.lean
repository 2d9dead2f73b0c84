/-
Patterns with wildcards: `%` stands for any run of characters and `_` for
any one character.

The matcher reads the pattern once and keeps two rows, with a mark for each
prefix of the text: one row for what has been read of the pattern, and one
that the next character of the pattern is written to. Then they change
places.
-/

namespace FilterCriteria.Pattern

/-- Writes over a row, from the empty prefix of the text on, whether a prefix
that is no longer is marked. -/
def writeAnyBefore (seen : Bool) : (marks row : List Bool) → List Bool
  | b :: marks, _ :: row =>
    (seen || b) :: writeAnyBefore (seen || b) marks row
  | _, row => row

/-- Writes over the rest of a row, from the prefix of one character on,
whether a prefix is a marked one and one more character that `p` stands
for. -/
def writeOneMore (p : Char) :
    (text : List Char) → (marks row : List Bool) → List Bool
  | c :: text, b :: marks, _ :: row =>
    (b && (p == '_' || p == c)) :: writeOneMore p text marks row
  | _, _, row => row

/-- The two rows: the marks of the prefixes, from the empty one on, and the
row that is written next. -/
structure Rows where
  marks : List Bool
  spare : List Bool

/-- Only the empty text goes with the empty pattern. -/
def Rows.start (text : List Char) : Rows where
  marks := true :: text.map fun _ => false
  spare := false :: text.map fun _ => false

/-- One more character of the pattern. -/
def Rows.step (text : List Char) (rows : Rows) (p : Char) : Rows where
  marks :=
    if p = '%' then writeAnyBefore false rows.marks rows.spare
    else
      match rows.spare with
      | [] => []
      | _ :: row => false :: writeOneMore p text rows.marks row
  spare := rows.marks

/-- Does the pattern stand for the whole text? -/
def isMatch (text pattern : String) : Bool :=
  let rows := pattern.toList.foldl (Rows.step text.toList) (.start text.toList)
  rows.marks.getLastD false

end FilterCriteria.Pattern
