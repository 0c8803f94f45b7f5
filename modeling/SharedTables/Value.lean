import SharedTables.Calendar.Moment
import SharedTables.Number.Reading

/-!
# Untyped values

Settings, partition values and the parts of a manifest are values whose type is not known before
they are read.  An object keeps its members in the order in which their names first came up.

* `Value.decEq`                    values can be compared
* `Value.isSet`                    null, false, zero and what is empty count as not given
* `Value.toInteger`, `Value.toFloat`  conversion to a number, or the reason why there is none
* `Value.display`, `Value.literal`  the text of a value in messages, bare and with texts quoted
* `Value.toText`                   the text of a value, or the reason why there is none
-/

namespace SharedTables

/-- A value of any type. -/
inductive Value where
  | null
  | bool (b : Bool)
  | int (n : Int)
  | float (x : Binary)
  | text (s : String)
  | date (d : Date)
  | moment (m : Moment)
  | list (items : List Value)
  | object (members : List (String × Value))
deriving Inhabited

/-- The members of an object, in order. -/
abbrev Members := List (String × Value)

namespace Members

/-- The value under a name. -/
def lookup? (members : Members) (name : String) : Option Value :=
  (members.find? fun m => m.1 == name).map (·.2)

/-- Writes a member; a name that is present already keeps its place. -/
def insert : Members → String → Value → Members
  | [], name, v => [(name, v)]
  | (n, w) :: rest, name, v =>
    if n = name then (n, v) :: rest else (n, w) :: insert rest name v

/-- The members with those of a second object written over them. -/
def merge (members updates : Members) : Members :=
  updates.foldl (fun acc m => acc.insert m.1 m.2) members

/-- The members that a list of pairs describes; of several under one name the last counts. -/
def ofPairs (pairs : List (String × Value)) : Members :=
  merge [] pairs

end Members

namespace Value

/-- The value under a name; null when the name or the object is absent. -/
def member (v : Value) (name : String) : Value :=
  match v with
  | object members => (Members.lookup? members name).getD null
  | _ => null

/-- Whether the value is null. -/
def isNull : Value → Bool
  | null => true
  | _ => false

mutual

/-- Decides whether two values are the same. -/
def decEq : (v w : Value) → Decidable (v = w)
  | null, w => decidable_of_iff (w.isNull = true) (by cases w <;> simp [isNull])
  | bool b, w =>
    match w with
    | bool c => decidable_of_iff (b = c) (by simp)
    | null | int _ | float _ | text _ | date _ | moment _ | list _ | object _ => isFalse nofun
  | int n, w =>
    match w with
    | int m => decidable_of_iff (n = m) (by simp)
    | null | bool _ | float _ | text _ | date _ | moment _ | list _ | object _ => isFalse nofun
  | float x, w =>
    match w with
    | float y => decidable_of_iff (x = y) (by simp)
    | null | bool _ | int _ | text _ | date _ | moment _ | list _ | object _ => isFalse nofun
  | text s, w =>
    match w with
    | text t => decidable_of_iff (s = t) (by simp)
    | null | bool _ | int _ | float _ | date _ | moment _ | list _ | object _ => isFalse nofun
  | date d, w =>
    match w with
    | date e => decidable_of_iff (d = e) (by simp)
    | null | bool _ | int _ | float _ | text _ | moment _ | list _ | object _ => isFalse nofun
  | moment m, w =>
    match w with
    | moment n => decidable_of_iff (m = n) (by simp)
    | null | bool _ | int _ | float _ | text _ | date _ | list _ | object _ => isFalse nofun
  | list items, w =>
    match w with
    | list others =>
      have := decEqItems items others
      decidable_of_iff (items = others) (by simp)
    | null | bool _ | int _ | float _ | text _ | date _ | moment _ | object _ => isFalse nofun
  | object members, w =>
    match w with
    | object others =>
      have := decEqMembers members others
      decidable_of_iff (members = others) (by simp)
    | null | bool _ | int _ | float _ | text _ | date _ | moment _ | list _ => isFalse nofun

/-- Decides whether two lists have the same items. -/
def decEqItems : (items others : List Value) → Decidable (items = others)
  | [], [] => isTrue rfl
  | v :: items, w :: others =>
    have := decEq v w
    have := decEqItems items others
    decidable_of_iff (v = w ∧ items = others) (by simp)
  | [], _ :: _ => isFalse nofun
  | _ :: _, [] => isFalse nofun

/-- Decides whether two objects have the same members. -/
def decEqMembers : (members others : List (String × Value)) → Decidable (members = others)
  | [], [] => isTrue rfl
  | (name, v) :: members, (other, w) :: others =>
    have := decEq v w
    have := decEqMembers members others
    decidable_of_iff (name = other ∧ v = w ∧ members = others) (by simp [and_assoc])
  | [], _ :: _ => isFalse nofun
  | _ :: _, [] => isFalse nofun

end

instance : DecidableEq Value := decEq

/-- Whether a value counts as given: null, false, zero and what is empty do not. -/
def isSet : Value → Bool
  | null => false
  | bool b => b
  | int n => n != 0
  | float x => !x.isZero
  | text s => !s.isEmpty
  | date _ => true
  | moment _ => true
  | list items => !items.isEmpty
  | object members => !members.isEmpty

/-- The name of the type of a value in messages. -/
def typeName : Value → String
  | null => "NoneType"
  | bool _ => "bool"
  | int _ => "int"
  | float _ => "float"
  | text _ => "str"
  | date _ => "datetime.date"
  | moment _ => "datetime.datetime"
  | list _ => "list"
  | object _ => "dict"

/-- The elements of a value that is a sequence: the characters of a text, the items of a list, the
names of an object. -/
def elements? : Value → Option (List Value)
  | text s => some (s.toList.map fun c => text (String.singleton c))
  | list items => some items
  | object members => some (members.map fun m => text m.1)
  -- null, truth values, numbers and dates have no elements
  | _ => none

mutual

/-- The text of a value with texts in quotes. -/
def literal : Value → String
  | null => "None"
  | bool b => if b then "True" else "False"
  | int n => intText n
  | float x => x.text
  | text s => Text.quote s
  | date d => d.literal
  | moment m => m.literal
  | list items => "[" ++ String.intercalate ", " (literalItems items) ++ "]"
  | object members => "\x7b" ++ String.intercalate ", " (literalMembers members) ++ "\x7d"

/-- The texts of the items of a list. -/
def literalItems : List Value → List String
  | [] => []
  | v :: rest => literal v :: literalItems rest

/-- The texts of the members of an object. -/
def literalMembers : List (String × Value) → List String
  | [] => []
  | (name, v) :: rest => (Text.quote name ++ ": " ++ literal v) :: literalMembers rest

end

/-- The text of a value in messages: a text stands for itself. -/
def display : Value → String
  | text s => s
  | date d => d.text
  | moment m => m.text
  | v => v.literal

mutual

/-- Whether no integer in a value has too many digits to be written. -/
def hasText : Value → Bool
  | int n => (natText n.natAbs).length ≤ maxIntegerDigits
  | list items => haveTexts items
  | object members => membersHaveTexts members
  | _ => true

/-- Whether no integer in the items of a list has too many digits. -/
def haveTexts : List Value → Bool
  | [] => true
  | v :: rest => hasText v && haveTexts rest

/-- Whether no integer in the members of an object has too many digits. -/
def membersHaveTexts : List (String × Value) → Bool
  | [] => true
  | (_, v) :: rest => hasText v && membersHaveTexts rest

end

/-- The text of a value, unless it holds an integer with too many digits to be written. -/
def toText (v : Value) : Except NumberError String :=
  if v.hasText then .ok v.display else .error .tooLongToWrite

@[simp] theorem toText_text (s : String) : (text s).toText = .ok s := rfl

end Value

namespace Binary

/-- The integer part. -/
def truncate : Binary → Except NumberError Int
  | nan => .error .nanToInteger
  | infinite _ => .error .infinityToInteger
  | finite s m e => .ok (signed s ((m <<< e.toNat) >>> (-e).toNat))

end Binary

namespace Value

/-- The integer that a value stands for; a fraction is cut off. -/
def toInteger : Value → Except NumberError Int
  | bool b => .ok b.toNat
  | int n => .ok n
  | float x => x.truncate
  | text s => Number.readInteger s
  | v => .error (.integerFromType v.typeName)

/-- The floating-point number that a value stands for. -/
def toFloat : Value → Except NumberError Binary
  | bool b => .ok (Binary.double.ofInt b.toNat)
  | int n =>
    -- an integer is not rounded to an infinity
    let x := Binary.double.ofInt n
    if x.isFinite then .ok x else .error .integerTooLarge
  | float x => .ok x
  | text s => Number.readFloat s
  | v => .error (.floatFromType v.typeName)

end Value

end SharedTables
