import SharedTables.Json.Reader
import SharedTables.Yaml.Cursor

/-!
# Texts in documents

A scalar may go over several lines: a line break in it counts as one blank, and each further one as
a line break.  `readPlain` reads a scalar without quotes, `readSingle` and `readDouble` read what
follows an opening quote.
-/

namespace SharedTables.Yaml

/-- The line breaks and blanks up to the next character: how many line breaks, and the place.  A
mark of a document on the way ends the search. -/
def skipLines (breaks line column : Nat) : List Char → Nat × Cursor
  | [] => (breaks, ⟨line, column, []⟩)
  | '\n' :: rest => skipLines (breaks + 1) (line + 1) 0 rest
  | c :: rest =>
    if c == ' ' then skipLines breaks line (column + 1) rest
    else (breaks, ⟨line, column, c :: rest⟩)

/-- What the given number of line breaks counts as within a scalar. -/
def folded (breaks : Nat) : List Char :=
  if breaks = 1 then [' '] else List.replicate (breaks - 1) '\n'

/-- Whether a character ends a plain scalar; `after` is what follows it, and `inFlow` tells whether
the scalar stands between brackets. -/
def endsPlain (inFlow : Bool) (c : Char) (after : List Char) : Bool :=
  Cursor.isGap c ||
    (c == ':' &&
      (Cursor.startsGap after || (inFlow && ",[]\x7b\x7d".toList.contains (after.headD ' ')))) ||
    (inFlow && ",?[]\x7b\x7d".toList.contains c)

/-- The characters of a plain scalar up to the next gap, and what follows. -/
def plainChunk (inFlow : Bool) : List Char → List Char × List Char
  | [] => ([], [])
  | c :: rest =>
    if endsPlain inFlow c rest then ([], c :: rest)
    else
      let (chunk, after) := plainChunk inFlow rest
      (c :: chunk, after)

/-- Reads a plain scalar.  Lines after the first have to be indented by at least `indent` columns,
unless the scalar stands between brackets.  The second part is the place after the last
character. -/
def readPlain (inFlow : Bool) (indent : Nat) : Nat → Cursor → List Char × Cursor
  | 0, c => ([], c)
  | fuel + 1, c =>
    let (chunk, after) := plainChunk inFlow c.rest
    let finish : Cursor := ⟨c.line, c.column + chunk.length, after⟩
    -- where a line starts with what ends a scalar, nothing is added
    if chunk.isEmpty then ([], c)
    else
      let (breaks, place) := skipLines 0 finish.line finish.column after
      let gap := if breaks = 0 then
          List.replicate (place.column - finish.column) ' '
        else folded breaks
      -- a comment, the end of a document and a line further out end the scalar
      let stops := gap.isEmpty || place.isEnd || place.rest.head? == some '#' ||
        (!inFlow && breaks != 0 && decide (place.column < indent))
      if stops then (chunk, finish)
      else
        let (more, last) := readPlain inFlow indent fuel place
        if more.isEmpty then (chunk, finish) else (chunk ++ gap ++ more, last)

/-- How many line breaks there are before the next character within quotes, and its place.  There is
none if a document ends on the way. -/
def quotedLines : Nat → Nat → Cursor → Option (Nat × Cursor)
  | 0, _, _ => none
  | fuel + 1, breaks, c =>
    match c.rest with
    | [] => some (breaks, c)
    | '\n' :: _ =>
      if c.next.isMark '-' || c.next.isMark '.' then none
      else quotedLines fuel (breaks + 1) c.next
    | ch :: _ =>
      if ch == ' ' || ch == '\t' then quotedLines fuel breaks c.next else some (breaks, c)

/-- The blanks and line breaks within quotes: what they count as, and the place after them. -/
def quotedGap (c : Cursor) : Option (List Char × Cursor) :=
  let blanks := c.rest.takeWhile fun ch => ch == ' ' || ch == '\t'
  let after := c.advance blanks.length
  match after.rest with
  | '\n' :: _ =>
    (quotedLines (after.rest.length + 1) 0 after).map fun (breaks, p) => (folded breaks, p)
  | _ => some (blanks, after)

/-- Reads a text in single quotes, in which a quote is written twice. -/
def readSingle : Nat → Cursor → Option (List Char × Cursor)
  | 0, _ => none
  | fuel + 1, c =>
    match c.rest with
    | [] => none
    -- a quote written twice comes before the closing one
    | '\'' :: '\'' :: _ => (readSingle fuel (c.advance 2)).map fun (cs, p) => ('\'' :: cs, p)
    | '\'' :: _ => some ([], c.next)
    | ch :: _ =>
      if Cursor.isGap ch then do
        let (gap, p) ← quotedGap c
        let (cs, q) ← readSingle fuel p
        return (gap ++ cs, q)
      else (readSingle fuel c.next).map fun (cs, p) => (ch :: cs, p)

/-- The character that a letter after a backslash stands for. -/
def escaped? : Char → Option Char
  | '0' => some '\x00'
  | 'a' => some '\x07'
  | 'b' => some '\x08'
  | 't' => some '\t'
  | '\t' => some '\t'
  | 'n' => some '\n'
  | 'v' => some '\x0b'
  | 'f' => some '\x0c'
  | 'r' => some '\r'
  | 'e' => some '\x1b'
  | ' ' => some ' '
  | '"' => some '"'
  | '\\' => some '\\'
  | '/' => some '/'
  | 'N' => some '\u0085'
  | '_' => some '\u00a0'
  | 'L' => some '\u2028'
  | 'P' => some '\u2029'
  | _ => none

/-- How many hexadecimal digits follow a letter after a backslash. -/
def codeLength? : Char → Option Nat
  | 'x' => some 2
  | 'u' => some 4
  | 'U' => some 8
  | _ => none

/-- The character of a code in hexadecimal. -/
def codeChar? (digits : List Char) : Option Char :=
  match digits.mapM Text.hexValue? with
  | some ds =>
    let n := ds.foldl (fun n d => 16 * n + d) 0
    if n.isValidChar then some (Char.ofNat n) else none
  | none => none

/-- Reads a text in double quotes, in which a backslash escapes characters and line breaks. -/
def readDouble : Nat → Cursor → Option (List Char × Cursor)
  | 0, _ => none
  | fuel + 1, c =>
    match c.rest with
    | [] => none
    | '"' :: _ => some ([], c.next)
    | '\\' :: '\n' :: _ => do
      let (gap, p) ← quotedGap c.next
      let (cs, q) ← readDouble fuel p
      -- an escaped line break leaves no blank
      return ((if gap = [' '] then [] else gap) ++ cs, q)
    | '\\' :: letter :: after =>
      match codeLength? letter with
      | some count =>
        if (after.take count).length < count then none
        else do
          let ch ← codeChar? (after.take count)
          let (cs, q) ← readDouble fuel (c.advance (2 + count))
          return (ch :: cs, q)
      | none => do
        let ch ← escaped? letter
        let (cs, q) ← readDouble fuel (c.advance 2)
        return (ch :: cs, q)
    | ch :: _ =>
      if ch == '\\' then none
      else if Cursor.isGap ch then do
        let (gap, p) ← quotedGap c
        let (cs, q) ← readDouble fuel p
        return (gap ++ cs, q)
      else (readDouble fuel c.next).map fun (cs, p) => (ch :: cs, p)

end SharedTables.Yaml
