import SharedTables.Yaml.Scalar
import SharedTables.Yaml.Text

/-!
# Reading YAML

`Yaml.read` reads a document of mappings, sequences and scalars, in lines or between brackets.  Of
entries with one key the last counts.  Anchors, tags, keys that are no scalars, scalars that are set
in blocks and streams of several documents are not supported.

A mapping or sequence in lines goes on as long as its lines start in the same column.  The value of
a key is what follows on its line, or the lines below it that are indented further; a sequence may
also start in the column of the key.

`readBlock` and its companions take fuel.  Every two units of it read at least one character, so
`read` starts with enough for any text.
-/

namespace SharedTables.Yaml

open Cursor

/-- The characters that start something other than a plain scalar. -/
def indicators : List Char := "-?:,[]\x7b\x7d#&*!|>'\"%@`".toList

/-- Whether a plain scalar starts with a character; `after` is what follows it. -/
def startsPlain (inFlow : Bool) (c : Char) (after : List Char) : Bool :=
  (!isGap c && !indicators.contains c) ||
    (!startsGap after && (c == '-' || (!inFlow && (c == '?' || c == ':'))))

/-- Reads a scalar. -/
def readScalar (inFlow : Bool) (indent : Nat) (c : Cursor) : Except ReadError (Value × Cursor) :=
  let fuel := c.rest.length + 1
  let quoted := fun (r : Option (List Char × Cursor)) =>
    match r with
    | some (cs, p) => Except.ok (Value.text (String.ofList cs), p)
    | none => Except.error ReadError.malformed
  match c.rest with
  | [] => .error .malformed
  | '"' :: _ => quoted (readDouble fuel c.next)
  | '\'' :: _ => quoted (readSingle fuel c.next)
  | ch :: after =>
    -- only a scalar without quotes may stand for something other than a text
    if startsPlain inFlow ch after then
      let (cs, p) := readPlain inFlow indent fuel c
      (resolve (String.ofList cs)).map fun v => (v, p)
    else .error .malformed

/-- The name that a key stands for. -/
def keyName (v : Value) : Except ReadError String :=
  match v with
  | .list _ => .error .malformed
  | .object _ => .error .malformed
  | _ => .ok v.display

/-- Whether a character stands at a place. -/
def atChar (ch : Char) (c : Cursor) : Bool :=
  c.rest.head? == some ch

/-- Whether a character that is followed by a gap stands at a place. -/
def atIndicator (ch : Char) (c : Cursor) : Bool :=
  match c.rest with
  | [] => false
  | d :: after => d == ch && startsGap after

mutual

/-- Reads a value between brackets. -/
def readFlow : Nat → Cursor → Except ReadError (Value × Cursor)
  | 0, _ => .error .malformed
  | fuel + 1, c =>
    if atChar '[' c then do
      let (items, p) ← readFlowItems fuel c.next.skip
      return (.list items, p)
    else if atChar '{' c then do
      let (members, p) ← readFlowMembers fuel c.next.skip
      return (.object (Members.ofPairs members), p)
    else readScalar true 0 c

/-- Reads the value after a colon between brackets; it may be missing. -/
def readFlowValue : Nat → Cursor → Except ReadError (Value × Cursor)
  | 0, _ => .error .malformed
  | fuel + 1, c =>
    if atChar ',' c || atChar ']' c || atChar '}' c then .ok (.null, c) else readFlow fuel c

/-- Reads the items of a sequence up to its closing bracket.  An item may be a pair. -/
def readFlowItems : Nat → Cursor → Except ReadError (List Value × Cursor)
  | 0, _ => .error .malformed
  | fuel + 1, c =>
    if atChar ']' c then .ok ([], c.next)
    else do
      let (v, p) ← readFlow fuel c
      let colon := p.skip
      let (item, q) ←
        -- a pair without braces is an object of one member
        if atChar ':' colon && colon.line == c.line then do
          let name ← keyName v
          let (w, q) ← readFlowValue fuel colon.next.skip
          pure (Value.object [(name, w)], q)
        else pure (v, p)
      let stop := q.skip
      if atChar ']' stop then return ([item], stop.next)
      else if atChar ',' stop then do
        let (items, last) ← readFlowItems fuel stop.next.skip
        return (item :: items, last)
      else .error .malformed

/-- Reads the entries of a mapping up to its closing brace.  A key may stand alone. -/
def readFlowMembers : Nat → Cursor → Except ReadError (List (String × Value) × Cursor)
  | 0, _ => .error .malformed
  | fuel + 1, c =>
    if atChar '}' c then .ok ([], c.next)
    else do
      let (key, p) ← readFlow fuel c
      let name ← keyName key
      let colon := p.skip
      let (v, q) ←
        if atChar ':' colon then
          if colon.line == c.line then readFlowValue fuel colon.next.skip
          else Except.error ReadError.malformed
        else pure (Value.null, p)
      let stop := q.skip
      if atChar '}' stop then return ([(name, v)], stop.next)
      else if atChar ',' stop then do
        let (members, last) ← readFlowMembers fuel stop.next.skip
        return ((name, v) :: members, last)
      else .error .malformed

end

mutual

/-- Reads a value in lines.  `indent` is the first column in which a further line of it may start;
`inline` tells whether the value stands on the line of its key, where no lines can start. -/
def readBlock : Nat → Nat → Bool → Cursor → Except ReadError (Value × Cursor)
  | 0, _, _, _ => .error .malformed
  | fuel + 1, indent, inline, c =>
    if atIndicator '-' c then
      if inline then .error .malformed
      else do
        let (items, p) ← readEntries fuel c.column false c
        return (.list items, p)
    else if atChar '[' c || atChar '{' c then readFlow (4 * c.rest.length + 4) c
    else do
      let (v, p) ← readScalar false indent c
      let colon := p.skip
      -- a colon on the line of the scalar makes it the first key of a mapping
      if colon.line == c.line && atIndicator ':' colon then
        if inline then .error .malformed
        else do
          let (members, q) ← readMembers fuel c.column c
          return (.object (Members.ofPairs members), q)
      else return (v, p)

/-- Reads the entries of a mapping whose keys start in the given column. -/
def readMembers : Nat → Nat → Cursor → Except ReadError (List (String × Value) × Cursor)
  | 0, _, _ => .error .malformed
  | fuel + 1, column, c => do
    let (key, p) ← readScalar false (column + 1) c
    let name ← keyName key
    let colon := p.skip
    if colon.line != c.line || !atIndicator ':' colon then .error .malformed
    let place := colon.next.skip
    let (v, q) ←
      if place.isEnd then pure (Value.null, colon.next)
      else if place.line == colon.line then readBlock fuel (column + 1) true place
      else if column < place.column then readBlock fuel (column + 1) false place
      -- only a sequence may start in the column of its key
      else if place.column == column && atIndicator '-' place then do
        let (items, q) ← readEntries fuel column true place
        pure (Value.list items, q)
      else pure (Value.null, colon.next)
    let following := q.skip
    -- further in is part of no value, further out belongs to what is around
    if following.isEnd then return ([(name, v)], q)
    else if following.line == q.line || column < following.column then .error .malformed
    else if following.column == column then do
      let (members, last) ← readMembers fuel column following
      return ((name, v) :: members, last)
    else return ([(name, v)], q)

/-- Reads the entries of a sequence whose hyphens stand in the given column; `shared` tells whether
the keys of the mapping around it stand there too. -/
def readEntries : Nat → Nat → Bool → Cursor → Except ReadError (List Value × Cursor)
  | 0, _, _, _ => .error .malformed
  | fuel + 1, column, shared, c => do
    let place := c.next.skip
    let (v, q) ←
      if place.isEnd then pure (Value.null, c.next)
      else if place.line == c.line || column < place.column then
        readBlock fuel (column + 1) false place
      else pure (Value.null, c.next)
    let following := q.skip
    if following.isEnd then return ([v], q)
    else if following.line == q.line || column < following.column then .error .malformed
    else if following.column < column then return ([v], q)
    else if atIndicator '-' following then do
      let (items, last) ← readEntries fuel column shared following
      return (v :: items, last)
    else if shared then return ([v], q)
    else .error .malformed

end

/-- Whether a character may stand in a document. -/
def isAllowed (c : Char) : Bool :=
  let n := c.toNat
  n == 0x9 || n == 0xa || n == 0xd || (0x20 ≤ n && n ≤ 0x7e) || n == 0x85 ||
    (0xa0 ≤ n && n != 0xfffe && n != 0xffff)

/-- The text with every kind of line end as a line feed. -/
def unifyBreaks : List Char → List Char
  | '\r' :: '\n' :: rest => '\n' :: unifyBreaks rest
  | c :: rest =>
    (if "\r\u0085\u2028\u2029".toList.contains c then '\n' else c) :: unifyBreaks rest
  | [] => []

/-- Whether nothing follows the end of a document. -/
def isLast : Nat → Cursor → Bool
  | 0, _ => false
  | fuel + 1, c => c.rest.isEmpty || (c.isMark '.' && isLast fuel (c.advance 3).skip)

/-- Reads a document; nothing is null. -/
def read (text : String) : Except ReadError Value :=
  let cs := text.toList
  -- a mark of the byte order at the front does not count
  let body := unifyBreaks (if cs.head? = some '\ufeff' then cs.drop 1 else cs)
  let fuel := 4 * body.length + 8
  let first := (Cursor.start body).skip
  let marked := first.isMark '-'
  let place := if marked then (first.advance 3).skip else first
  -- one character that may not stand there spoils all of the document
  if !cs.all isAllowed then .error .malformed
  else if place.isEnd then if isLast fuel place then .ok .null else .error .malformed
  else do
    let (v, p) ← readBlock fuel 0 (marked && place.line == first.line) place
    if isLast fuel p.skip then return v else .error .malformed

end SharedTables.Yaml
