import SharedTables.Text.DecimalDigit

/-!
# The words of a command line

A word that starts with a hyphen is an option, unless it is a negative number or holds a blank.  Any
start of an option that belongs to no other stands for it, and what follows an equals sign or the
letter of a short option is its value.  After a word of two hyphens there are no options.
-/

namespace SharedTables.CommandLine

/-- An option that is known: its name, and whether a value follows it. -/
structure OptionForm where
  name : String
  takesValue : Bool
deriving DecidableEq, Repr

/-- A word of a command line. -/
inductive Word where
  /-- A word that is no option. -/
  | plain (text : String)
  /-- The word after which there are no options. -/
  | divider
  /-- An option, with the value after its equals sign. -/
  | option (form : OptionForm) (value : Option String)
deriving DecidableEq, Repr

/-- A command line that cannot be understood. -/
inductive UsageError where
  | unknownOption (word : String)
  | ambiguousOption (word : String)
  | missingValue (option : String)
  | unexpectedValue (option : String)
  | invalidValue (option : String) (value : String)
  | missingArgument (name : String)
  | unexpectedArgument (word : String)
  | unknownCommand (word : String)
deriving DecidableEq, Repr

/-- The wording of each cause. -/
def UsageError.message : UsageError → String
  | unknownOption word => "unknown option " ++ word
  | ambiguousOption word => "ambiguous option " ++ word
  | missingValue option => "option " ++ option ++ " needs a value"
  | unexpectedValue option => "option " ++ option ++ " takes no value"
  | invalidValue option value => "option " ++ option ++ " does not take " ++ value
  | missingArgument name => "argument " ++ name ++ " is missing"
  | unexpectedArgument word => "unexpected argument " ++ word
  | unknownCommand word => "unknown command " ++ word

/-- The word after which there are no options. -/
def separator : String := "--"

/-- Whether a word after its hyphen is a number: digits, or digits with a point before the last of
them. -/
def isNumber (cs : List Char) : Bool :=
  let (whole, rest) := cs.span Text.isDecimalDigit
  match rest with
  | [] => !whole.isEmpty
  | '.' :: fraction => !fraction.isEmpty && fraction.all Text.isDecimalDigit
  | _ => false

/-- Whether a word has the form of an option. -/
def looksOptional (word : String) : Bool :=
  match word.toList with
  -- `-1.5` and `- a b` are values
  | '-' :: c :: rest => !isNumber (c :: rest) && !(c :: rest).contains ' '
  | _ => false

/-- A word before and after its first equals sign. -/
def splitEquals : List Char → List Char × Option (List Char)
  | [] => ([], none)
  | c :: rest =>
    if c = '=' then ([], some rest)
    else
      let (before, after) := splitEquals rest
      (c :: before, after)

namespace OptionForm

/-- The options that a start of a name may stand for. -/
def candidates (forms : List OptionForm) (start : String) : List OptionForm :=
  match forms.find? fun f => f.name == start with
  | some f => [f]
  -- only long options may be shortened
  | none => if start.startsWith separator then forms.filter fun f => f.name.startsWith start else []

/-- The option of one letter that a word starts with, and the letters after it. -/
def short? (forms : List OptionForm) (word : List Char) : Option (OptionForm × List Char) :=
  (forms.find? fun f => f.name.length == 2 && f.name.toList.isPrefixOf word).map fun f =>
    (f, word.drop 2)

end OptionForm

/-- Reads one word. -/
def readWord (forms : List OptionForm) (word : String) :
    Except UsageError Word :=
  -- a hyphen by itself is a word like others
  if !word.startsWith "-" || word.length < 2 then .ok (.plain word)
  else
    let (before, after) := splitEquals word.toList
    let start := String.ofList before
    match OptionForm.candidates forms start with
    | [form] => .ok (.option form (after.map String.ofList))
    -- no long option: it may be a short one with its value, a number or a phrase
    | [] =>
      match OptionForm.short? forms word.toList with
      | some (form, value) => .ok (.option form (some (String.ofList value)))
      | none => if looksOptional word then .error (.unknownOption word) else .ok (.plain word)
    | _ => .error (.ambiguousOption word)

/-- Reads all words. -/
def readWords (forms : List OptionForm) :
    List String → Except UsageError (List Word)
  | [] => .ok []
  | word :: rest =>
    if word == separator then .ok (.divider :: rest.map .plain)
    else do
      let w ← readWord forms word
      let ws ← readWords forms rest
      return w :: ws

/-- The options of a command line with their values, and its other words. -/
structure Assignment where
  options : List (String × String)
  arguments : List String
deriving DecidableEq, Repr

namespace Assignment

/-- The last value of an option. -/
def value? (a : Assignment) (name : String) : Option String :=
  (a.options.reverse.find? fun o => o.1 == name).map (·.2)

/-- The values of an option, in order. -/
def values (a : Assignment) (name : String) : List String :=
  (a.options.filter fun o => o.1 == name).map (·.2)

/-- Whether an option is given. -/
def has (a : Assignment) (name : String) : Bool :=
  a.options.any fun o => o.1 == name

end Assignment

/-- Gives every option its value, which is the word after it if none is attached to it. -/
def assign : List Word → Except UsageError Assignment
  | [] => .ok ⟨[], []⟩
  | .plain text :: rest => do
    let a ← assign rest
    return { a with arguments := text :: a.arguments }
  | .divider :: rest => assign rest
  | .option form (some v) :: rest =>
    if form.takesValue then do
      let a ← assign rest
      return { a with options := (form.name, v) :: a.options }
    else .error (.unexpectedValue form.name)
  | .option form none :: rest =>
    if form.takesValue then
      match rest with
      | .plain v :: more => do
        let a ← assign more
        return { a with options := (form.name, v) :: a.options }
      -- the next word is an option or the divider, so there is no value
      | _ => .error (.missingValue form.name)
    else do
      let a ← assign rest
      return { a with options := (form.name, "") :: a.options }

end SharedTables.CommandLine
