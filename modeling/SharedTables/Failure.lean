import SharedTables.Predicate.Parser
import SharedTables.Table.DataType
import SharedTables.Yaml.Timestamp

/-!
# Failures

Everything that can stop an operation, by cause.  The wording of each cause is in its `message`.
Reasons that a foreign reader gives for rejecting a text or a file are not repeated in messages:
`undisclosed` stands in their place.
-/

namespace SharedTables

/-- Stands for a reason that is not repeated. -/
def undisclosed : String := "<detail>"

/-- Why rows were not filtered. -/
inductive FilterError where
  /-- The text is no predicate. -/
  | invalidPredicate (cause : ParseError)
  /-- The table has no such column. -/
  | unknownColumn (column : String)
  /-- The text compared with a column of dates or points in time is neither. -/
  | invalidDate (column : String) (text : String)
  /-- The literal can never be compared with the column. -/
  | incompatibleTypes (column : String) (type : DataType) (value : Literal)

/-- The wording of each cause. -/
def FilterError.message : FilterError → String
  | invalidPredicate cause => "invalid filter: " ++ cause.text
  | unknownColumn column => "unknown column in filter: " ++ column
  | invalidDate column text => "invalid date for column " ++ column ++ ": " ++ Text.quote text
  | incompatibleTypes column type value =>
    "cannot compare column " ++ column ++ " of type " ++ type.name ++ " with " ++
      value.toValue.typeName ++ " value " ++ value.toValue.literal

/-- Why a table operation was not carried out although its arguments name existing columns. -/
inductive TableError where
  /-- The operation is not defined on values like these. -/
  | invalidOperation
  /-- The types of two columns, or of a column and a value, that have to agree do not. -/
  | typeMismatch
  /-- A reading of a clock is that of no point in time, or of several. -/
  | unclearReading
  /-- Two columns of the result would have the same name. -/
  | duplicateColumn
  /-- The values have no written form. -/
  | notRepresentable
deriving DecidableEq, Repr

/-- Why a text was not searched for. -/
inductive SearchError where
  /-- The table has none of the columns. -/
  | noMatchingColumns (columns : List String)
  /-- The cells of a column have no text. -/
  | notSearchable

/-- The wording of each cause. -/
def SearchError.message : SearchError → String
  | noMatchingColumns columns =>
    "none of the specified columns exist in the dataframe: " ++ Text.quoteList columns
  | notSearchable => "text search failed: " ++ undisclosed

/-- Why two tables were not joined, apart from their columns. -/
inductive JoinError where
  /-- The value is not the name of a kind of join. -/
  | unknownKind (value : Value)
  /-- The kind of join needs key columns and none are given. -/
  | noKeys (kind : String)

/-- The wording of each cause. -/
def JoinError.message : JoinError → String
  | unknownKind value => value.literal ++ " is not a valid JoinHow"
  | noKeys kind => "join how=" ++ kind ++ " requires at least one 'on' column"

/-- Why settings were not accepted. -/
inductive ConfigError where
  /-- A setting that has to be given is missing or empty. -/
  | required (key : String)
  /-- The number of workers is not positive. -/
  | tooFewWorkers (value : Value)
  /-- A numeric setting is no number. -/
  | invalidNumber (cause : NumberError)
  /-- There is no such setting, or one that has to be given is not mentioned. -/
  | wrongKeys
  /-- There is no such file. -/
  | fileNotFound (path : String)
  /-- The file is no document of settings. -/
  | unreadableFile (path : String)
  /-- The document is not a mapping. -/
  | notMapping (path : String)

/-- The wording of each cause. -/
def ConfigError.message : ConfigError → String
  | required key => key ++ " is required"
  | tooFewWorkers value => "max_workers must be >= 1, got " ++ value.display
  | invalidNumber cause => "Invalid numeric setting: " ++ cause.message
  | wrongKeys => "the names are not those of the settings"
  | fileNotFound path => "Config file not found: " ++ path
  | unreadableFile path => "Failed to read config file " ++ path ++ ": " ++ undisclosed
  | notMapping path => "Config file " ++ path ++ " must contain a mapping"

/-- Why the server gave no manifest. -/
inductive CatalogError where
  /-- The request did not reach the server or the answer did not arrive. -/
  | unreachable (reason : String)
  /-- The server answered with another status than success. -/
  | rejected (status : Nat) (body : String)
  /-- A line of the answer is no JSON. -/
  | notJson
  /-- The answer has too few lines, or lines that are not objects. -/
  | notManifest
  /-- A file of the manifest has no location. -/
  | fileWithoutUrl
deriving DecidableEq, Repr

namespace CatalogError

/-- The wording of each cause. -/
def message : CatalogError → String
  | unreachable reason => "request failed: " ++ reason
  | rejected status _ => "api error: status=" ++ natText status
  | notJson => "invalid response format: " ++ undisclosed
  | notManifest => "invalid response format"
  | fileWithoutUrl => "invalid response format: file action without url"

/-- The status of the answer, if the server rejected the request. -/
def status? : CatalogError → Option Nat
  | rejected status _ => some status
  | _ => none

/-- The text of the answer, if the server rejected the request. -/
def body : CatalogError → String
  | rejected _ body => body
  | _ => ""

end CatalogError

/-- Why a part of a manifest was not understood. -/
inductive ManifestError where
  /-- Partition values are neither an object nor a list of pairs. -/
  | notPairs
  /-- An element of a list of pairs is none. -/
  | pairLength (index length : Nat)

/-- The wording of each cause. -/
def ManifestError.message : ManifestError → String
  | notPairs => "partition values are neither an object nor a list of pairs"
  | pairLength index length =>
    "dictionary update sequence element #" ++ natText index ++ " has length " ++ natText length ++
      "; 2 is required"

/-- Why a file was not downloaded. -/
structure TransportError where
  url : String
  reason : String
deriving DecidableEq, Repr

/-- The wording of the error. -/
def TransportError.message (e : TransportError) : String :=
  "failed to download " ++ e.url ++ ": " ++ e.reason

/-- Why a file was not decoded. -/
inductive DecodeError where
  /-- The file is empty. -/
  | emptyPayload
  /-- The file holds no table. -/
  | notTable
deriving DecidableEq, Repr

/-- The wording of each cause. -/
def DecodeError.message : DecodeError → String
  | emptyPayload => "failed to load parquet data: empty payload"
  | notTable => "failed to load parquet data: " ++ undisclosed

/-- Why a query was not built or not sent. -/
inductive QueryError where
  /-- The name of the table is missing. -/
  | tableRequired
  /-- The limit is not positive. -/
  | limitNotPositive (value : Value)
  /-- A value that is no sequence where one was asked for. -/
  | notSequence
  /-- A value that is no text where a name was asked for. -/
  | notName
  /-- A value that is no text where the location of the server was asked for. -/
  | notLocation
  /-- A value that is no number where a number of workers was asked for. -/
  | notCount
  /-- A token that is not in ASCII. -/
  | notAscii
  /-- A number that JSON has no form for. -/
  | notFinite
  /-- A value of a type that JSON has no form for. -/
  | notSerializable (typeName : String)

/-- The wording of each cause. -/
def QueryError.message : QueryError → String
  | tableRequired => "table is required"
  | limitNotPositive value => "limit must be a positive integer, got " ++ value.display
  | notSequence => "the value is not a sequence"
  | notName => "the value is not a name"
  | notLocation => "the value is not a location"
  | notCount => "the value is not a number"
  | notAscii => "the token is not in ASCII"
  | notFinite => "Out of range float values are not JSON compliant"
  | notSerializable typeName => "Object of type " ++ typeName ++ " is not JSON serializable"

/-- Whatever can stop an operation. -/
inductive Failure where
  | parse (e : ParseError)
  | predicate (e : PredicateError)
  | filter (e : FilterError)
  /-- A date or a point in time has no date in the calendar. -/
  | dateOutOfRange
  | table (e : TableError)
  | search (e : SearchError)
  | join (e : JoinError)
  | number (e : NumberError)
  /-- A document holds what looks like a date or a point in time and is none. -/
  | timestamp (e : Yaml.TimestampError)
  | config (e : ConfigError)
  | catalog (e : CatalogError)
  | manifest (e : ManifestError)
  | transport (e : TransportError)
  | decode (e : DecodeError)
  | query (e : QueryError)

/-- The wording of each cause; table operations give none. -/
def Failure.message : Failure → String
  | parse e => e.message
  | predicate e => e.message
  | filter e => e.message
  | dateOutOfRange => "date value out of range"
  | table _ => ""
  | search e => e.message
  | join e => e.message
  | number e => e.message
  | timestamp e => e.message
  | config e => e.message
  | catalog e => e.message
  | manifest e => e.message
  | transport e => e.message
  | decode e => e.message
  | query e => e.message

/-- Whether a file alone is to blame, so that the others can still be read. -/
def Failure.concernsFile : Failure → Bool
  | transport _ => true
  | decode _ => true
  | _ => false

end SharedTables
