/-!
# A place in a document

Where a line starts and how far it is indented carries meaning in a document, so a reader keeps the
number of the line and of the column beside the text that is left.
-/

namespace SharedTables.Yaml

/-- A place in a document. -/
structure Cursor where
  line : Nat
  column : Nat
  rest : List Char
deriving DecidableEq, Repr

namespace Cursor

/-- The start of a text. -/
def start (cs : List Char) : Cursor := ⟨0, 0, cs⟩

/-- The place after the next character. -/
def next (c : Cursor) : Cursor :=
  match c.rest with
  | [] => c
  | '\n' :: rest => ⟨c.line + 1, 0, rest⟩
  | _ :: rest => ⟨c.line, c.column + 1, rest⟩

/-- The place after the given number of characters. -/
def advance : Nat → Cursor → Cursor
  | 0, c => c
  | n + 1, c => advance n c.next

/-- Whether a character ends a word: a blank or the end of a line. -/
def isGap (c : Char) : Bool :=
  c == ' ' || c == '\t' || c == '\n'

/-- Whether a text starts with a gap or is at its end. -/
def startsGap (cs : List Char) : Bool :=
  match cs with
  | [] => true
  | c :: _ => isGap c

/-- Whether the line at the place starts with three of a character, the mark of the start or the end
of a document. -/
def isMark (mark : Char) (c : Cursor) : Bool :=
  match c.rest with
  | a :: b :: d :: rest =>
    c.column == 0 && a == mark && b == mark && d == mark && startsGap rest
  | _ => false

/-- Whether the document ends at the place. -/
def isEnd (c : Cursor) : Bool :=
  c.rest.isEmpty || c.isMark '-' || c.isMark '.'

/-- Passes over characters that are left; in a comment up to the end of its line. -/
def skipFrom (line column : Nat) (comment : Bool) : List Char → Cursor
  | [] => ⟨line, column, []⟩
  | '\n' :: rest => skipFrom (line + 1) 0 false rest
  | c :: rest =>
    if comment || c == ' ' then skipFrom line (column + 1) comment rest
    else if c == '#' then skipFrom line (column + 1) true rest
    else ⟨line, column, c :: rest⟩

/-- The next place that is neither blank nor in a comment. -/
def skip (c : Cursor) : Cursor := skipFrom c.line c.column false c.rest

end Cursor

end SharedTables.Yaml
