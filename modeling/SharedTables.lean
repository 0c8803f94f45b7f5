import SharedTables.Main
import SharedTables.Predicate.Printer
import SharedTables.Proofs.Number.Nearest
import SharedTables.Table.Filter
import SharedTables.Table.Join
import SharedTables.Table.Search
import SharedTables.Table.Total
import SharedTables.Text.Lowercase
import SharedTables.Proofs.Number.Rounding
import SharedTables.Proofs.Number.ReadBack
import SharedTables.Proofs.Predicate.Grammar
import SharedTables.Proofs.Predicate.Literals
import SharedTables.Proofs.Predicate.Parsing
import SharedTables.Proofs.Number.Digits
import SharedTables.Proofs.Predicate.Rendering
import SharedTables.Proofs.Predicate.RoundTrip
import SharedTables.Proofs.Calendar.DateOrder
import SharedTables.Proofs.Text.Utf8Order
import SharedTables.Proofs.Number.IntText
import SharedTables.Proofs.Sharing.PartitionVerdict
import SharedTables.Proofs.Run
import SharedTables.Proofs.Sharing.PruningAgrees
import SharedTables.Proofs.Table.Columns
import SharedTables.Proofs.Table.Stacking
import SharedTables.Proofs.Query.Contribution
import SharedTables.Proofs.Query.Reading
import SharedTables.Proofs.Requests
import SharedTables.Proofs.Sharing.Pruned
import SharedTables.Proofs.Query.Isolation
import SharedTables.Proofs.Pool
import SharedTables.Proofs.Query.Parallel
import SharedTables.Proofs.Number.Stored
import SharedTables.Proofs.Table.Values
import SharedTables.Proofs.Table.SameColumns
import SharedTables.Proofs.Table.Filtering
import SharedTables.Proofs.Query.Served
import SharedTables.Proofs.Query.FilterLater
import SharedTables.Proofs.Table.Operations
import SharedTables.Proofs.CommandLine.Narrowing
import SharedTables.Proofs.Table.FilterFailures
import SharedTables.Proofs.Json.Grammar
import SharedTables.Proofs.Json.Document
import SharedTables.Proofs.Json.Reading
import SharedTables.Proofs.Json.Writing
import SharedTables.Proofs.Json.Layout
import SharedTables.Proofs.Sharing.Listing
import SharedTables.Proofs.Table.Drifting
import SharedTables.Proofs.Table.DrillDown
import SharedTables.Proofs.Table.Records
import SharedTables.Proofs.Table.Usable
import SharedTables.Proofs.Sharing.Refusals
import SharedTables.Proofs.Query.Connection
import SharedTables.Proofs.CommandLine.ExitCodes
import SharedTables.Proofs.CommandLine.Listings
import SharedTables.Proofs.Table.Joining
import SharedTables.Proofs.Number.Scripts
import SharedTables.Proofs.Number.ExactOrder
import SharedTables.Proofs.Sharing.FileLines
import SharedTables.Proofs.Sharing.NumericText
import SharedTables.Proofs.Sharing.PruningStops
import SharedTables.Proofs.Predicate.Operators
import SharedTables.Proofs.Table.Splitting
import SharedTables.Proofs.Table.Searching
import SharedTables.Proofs.Table.Instants
import SharedTables.Proofs.Table.Occurrences
import SharedTables.Proofs.Sharing.PruningOrder
import SharedTables.Proofs.Table.Conjunction
import SharedTables.Proofs.Table.Counting
import SharedTables.Proofs.Query.Projection
import SharedTables.Proofs.Settings.Priority
import SharedTables.Proofs.Settings.Refusal
import SharedTables.Proofs.Predicate.ErrorPlaces
import SharedTables.Proofs.Text.Percent
import SharedTables.Proofs.Sharing.Locations
import SharedTables.Proofs.Query.Building
import SharedTables.Proofs.Sharing.PlainNumbers
