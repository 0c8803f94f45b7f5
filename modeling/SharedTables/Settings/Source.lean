import SharedTables.Settings.Basic
import SharedTables.Text.FilePath
import SharedTables.Yaml.Reader

/-!
# Where settings come from

Settings are given in a file, in the environment and by the caller; each of these goes before the
ones named earlier.  The file is a mapping; if it has a section for this program, that section alone
counts.
-/

namespace SharedTables

/-- The files at hand, by their clean names. -/
abbrev Files := List (String × String)

/-- What is found under a path. -/
inductive Files.Entry where
  | absent
  | directory
  | file (text : String)
deriving DecidableEq, Repr

/-- Finds what is under a clean path. -/
def Files.find (files : Files) (path : String) : Files.Entry :=
  match List.lookup path files with
  | some text => .file text
  | none =>
    -- a directory is known by the files in it
    if path == "." || files.any fun f => Text.isWithin path f.1 then .directory else .absent

/-- The variables of an environment. -/
abbrev Environment := List (String × String)

namespace Settings

/-- The section of a file that holds settings. -/
def section? (members : Members) : Option Members :=
  match members.lookup? "delta_query" with
  | some (.object inner) => some inner
  | _ => none

/-- The settings that a file gives. -/
def readFile (files : Files) (path : String) : Except Failure Members :=
  let name := Text.cleanPath path
  match files.find name with
  | .absent => .error (.config (.fileNotFound name))
  | .directory => .error (.config (.unreadableFile name))
  | .file text =>
    match Yaml.read text with
    | .error .malformed => .error (.config (.unreadableFile name))
    | .error (.tooManyDigits count) => .error (.number (.tooManyDigits count))
    | .error (.badTimestamp e) => .error (.timestamp e)
    | .ok (.object members) => .ok ((section? members).getD members)
    -- an empty document is as good as an empty mapping
    | .ok v => if v.isSet then .error (.config (.notMapping name)) else .ok []

/-- The variable that gives a setting. -/
def variableName (key : String) : String :=
  "DELTA_QUERY_" ++ String.ofList (key.toList.map Char.toUpper)

/-- The settings that an environment gives; an empty variable gives none. -/
def ofEnvironment (environment : Environment) : Members :=
  keys.filterMap fun key =>
    match List.lookup (variableName key) environment with
    | some value => if value.isEmpty then none else some (key, .text value)
    | none => none

/-- The overrides that are given. -/
def given (overrides : Members) : Members :=
  overrides.filter fun m => !m.2.isNull

/-- Settings from a file, if one is named, an environment and overrides. -/
def load (files : Files) (path : Option String) (environment : Environment)
    (overrides : Members) : Except Failure Settings := do
  let fromFile ←
    match path with
    | some path => readFile files path
    | none => pure []
  -- what comes later is written over what comes first
  ofMembers ((Members.merge fromFile (ofEnvironment environment)).merge (given overrides))

end Settings

end SharedTables
