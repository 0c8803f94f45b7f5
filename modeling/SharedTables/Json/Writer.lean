import SharedTables.Value

/-!
# Writing JSON

`Json.write` lays a value out on several lines, two blanks for each level; `Json.writeInline` keeps
it on one, with a blank between its parts or without.  Characters beyond ASCII stand for themselves
unless an ASCII text is asked for, in which case they are given by their 16-bit codes.
-/

namespace SharedTables.Json

/-- A 16-bit code in hexadecimal. -/
def codeEscape (n : Nat) : List Char :=
  '\\' :: 'u' :: Text.hexDigits 4 n

/-- A character beyond ASCII by its 16-bit codes. -/
def escapeWide (n : Nat) : List Char :=
  if n < 0x10000 then codeEscape n
  else
    -- beyond 16 bits a surrogate pair
    codeEscape (0xd800 + (n - 0x10000) / 0x400) ++ codeEscape (0xdc00 + (n - 0x10000) % 0x400)

/-- A character inside of a string. -/
def escapeChar (ascii : Bool) (c : Char) : List Char :=
  if c = '"' then ['\\', '"']
  else if c = '\\' then ['\\', '\\']
  else if c = '\n' then ['\\', 'n']
  else if c = '\r' then ['\\', 'r']
  else if c = '\t' then ['\\', 't']
  else if c = '\x08' then ['\\', 'b']
  else if c = '\x0c' then ['\\', 'f']
  else if c.toNat < 0x20 then codeEscape c.toNat
  -- DEL is not printed in ASCII either
  else if ascii && 0x7f ≤ c.toNat then escapeWide c.toNat
  else [c]

/-- A string in quotes. -/
def writeString (ascii : Bool) (s : String) : String :=
  String.ofList ('"' :: s.toList.flatMap (escapeChar ascii) ++ ['"'])

/-- A line end and the blanks of a level. -/
def newLine (level : Nat) : String :=
  "\n" ++ String.ofList (List.replicate (2 * level) ' ')

mutual

/-- Lays a value out on lines of the given level. -/
def writeAt (level : Nat) : Value → String
  | .null => "null"
  | .bool b => if b then "true" else "false"
  | .int n => intText n
  | .float x => FloatStyle.json.write Binary.double x
  | .text s => writeString false s
  -- JSON has no dates
  | .date d => writeString false d.text
  | .moment m => writeString false m.text
  | .list items =>
    match items with
    -- what is empty has no lines of its own
    | [] => "[]"
    | _ :: _ => "[" ++ String.intercalate "," (writeItems (level + 1) items) ++ newLine level ++ "]"
  | .object members =>
    match members with
    | [] => "\x7b\x7d"
    | _ :: _ =>
      "\x7b" ++ String.intercalate "," (writeMembers (level + 1) members) ++ newLine level ++ "\x7d"

/-- The items of a list, each on lines of its own. -/
def writeItems (level : Nat) : List Value → List String
  | [] => []
  | v :: rest => (newLine level ++ writeAt level v) :: writeItems level rest

/-- The members of an object, each on lines of its own. -/
def writeMembers (level : Nat) : List (String × Value) → List String
  | [] => []
  | (name, v) :: rest =>
    (newLine level ++ writeString false name ++ ": " ++ writeAt level v) :: writeMembers level rest

end

/-- The value on several lines. -/
def write (v : Value) : String := writeAt 0 v

mutual

/-- The value on one line, in ASCII, with the given gap after every comma and colon. -/
def writeInline (gap : String) : Value → String
  | .null => "null"
  | .bool b => if b then "true" else "false"
  | .int n => intText n
  | .float x => FloatStyle.json.write Binary.double x
  | .text s => writeString true s
  | .date d => writeString true d.text
  | .moment m => writeString true m.text
  | .list items => "[" ++ String.intercalate ("," ++ gap) (inlineItems gap items) ++ "]"
  | .object members =>
    "\x7b" ++ String.intercalate ("," ++ gap) (inlineMembers gap members) ++ "\x7d"

/-- The items of a list. -/
def inlineItems (gap : String) : List Value → List String
  | [] => []
  | v :: rest => writeInline gap v :: inlineItems gap rest

/-- The members of an object. -/
def inlineMembers (gap : String) : List (String × Value) → List String
  | [] => []
  | (name, v) :: rest =>
    (writeString true name ++ ":" ++ gap ++ writeInline gap v) :: inlineMembers gap rest

end

/-- The value on one line without any blanks. -/
def writeLine (v : Value) : String := writeInline "" v

/-- The value on one line with a blank after every comma and colon. -/
def writeSpaced (v : Value) : String := writeInline " " v

end SharedTables.Json
