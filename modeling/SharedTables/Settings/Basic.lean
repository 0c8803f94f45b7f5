import SharedTables.Failure
import SharedTables.Text.Blank
import SharedTables.Text.Lowercase

/-!
# Settings

`Settings` say where the server is, how to show that one may ask, and how to go about it.  They are
kept as they were given, since some of them may be of any type; what is checked is that the first
three are given and that there is at least one worker.

`Settings.create` takes settings as they are.  `Settings.ofMembers` passes over names that it does
not know and over nulls, and converts numbers and truth values that are given as texts.
-/

namespace SharedTables

/-- Where the server is and how to query it. -/
structure Settings where
  endpoint : Value
  bearerToken : Value
  share : Value
  schema : Value
  timeout : Value
  maxWorkers : Value
  showProgress : Value
deriving DecidableEq, Inhabited

namespace Settings

/-- The names of the settings that have to be given. -/
def requiredKeys : List String := ["endpoint", "bearer_token", "share"]

/-- The names of all settings. -/
def keys : List String :=
  requiredKeys ++ ["schema", "timeout_sec", "max_workers", "show_progress"]

/-- The schema that is queried unless another one is given. -/
def defaultSchema : Value := .text "public"

/-- The seconds to wait for the server unless another number is given. -/
def defaultTimeout : Value := .float (Binary.double.ofInt 60)

/-- The settings of members; what is missing has its default. -/
def fromMembers (members : Members) : Settings :=
  let get := fun (key : String) (default : Value) => (members.lookup? key).getD default
  { endpoint := get "endpoint" .null
    bearerToken := get "bearer_token" .null
    share := get "share" .null
    schema := get "schema" defaultSchema
    timeout := get "timeout_sec" defaultTimeout
    maxWorkers := get "max_workers" (.int 1)
    showProgress := get "show_progress" (.bool false) }

/-- The first setting that has to be given and is not. -/
def missing? (s : Settings) : Option String :=
  ((requiredKeys.zip [s.endpoint, s.bearerToken, s.share]).find? fun (_, v) => !v.isSet).map (·.1)

/-- The settings, if what has to be given is given and there is at least one worker. -/
def check (s : Settings) : Except Failure Settings :=
  match s.missing? with
  | some key => .error (.config (.required key))
  | none =>
    -- what has to be given is reported before any number
    match s.maxWorkers.toInteger with
    | .error e => .error (.number e)
    | .ok n =>
      if n < 1 then
        -- an integer that is too long to be written has no place in the message
        .error (if s.maxWorkers.hasText then .config (.tooFewWorkers s.maxWorkers)
          else .number .tooLongToWrite)
      else .ok { s with schema := if s.schema.isSet then s.schema else defaultSchema }

/-- Settings as they are; all names have to be known. -/
def create (members : Members) : Except Failure Settings :=
  if (members.all fun m => keys.contains m.1) &&
      -- a setting that has to be given may still be nothing, which is checked later
      requiredKeys.all fun key => (members.lookup? key).isSome then
    (fromMembers members).check
  else .error (.config .wrongKeys)

/-- The conversion of a numeric setting; what is too large for a number is not the fault of the
setting alone. -/
def numeric (r : Except NumberError Value) : Except Failure Value :=
  r.mapError fun e => if e.isOverflow then .number e else .config (.invalidNumber e)

/-- The words that switch a setting on. -/
def onWords : List String := ["1", "true", "yes"]

/-- A truth value; a text is true if it is one of the words for that. -/
def switch (v : Value) : Value :=
  match v with
  | .text s =>
    .bool (onWords.contains (Text.lowercase (String.ofList (Text.trim s.toList))))
  | _ => v

/-- Settings from members of any kind. -/
def ofMembers (members : Members) : Except Failure Settings := do
  -- a null leaves a setting to its default
  let known := members.filter fun m => keys.contains m.1 && !m.2.isNull
  let s := fromMembers known
  -- numbers are converted before anything is checked
  let timeout ← numeric (s.timeout.toFloat.map .float)
  let maxWorkers ← numeric (s.maxWorkers.toInteger.map .int)
  check { s with
    timeout := timeout
    maxWorkers := maxWorkers
    showProgress := switch s.showProgress }

end Settings

end SharedTables
