import BoundSelect.Clause
import BoundSelect.Settings

set_option autoImplicit false

namespace BoundSelect

structure Query where
  table : String
  tableAlias : Option String := none
  -- None stands for all columns of the main table.
  columns : List String := []
  clauses : List Clause := []
  orderBy : Option OrderBy := none
  limit : Option Limit := none
  settings : Settings := {}

-- The order and the limit are those of the statement around the body, which has none of its own.
structure RecursiveQuery where
  body : Query
  name : String
  orderBy : Option OrderBy := none
  limit : Option Limit := none

def columnsOf (tableAlias : String) (columns : List String) : List String :=
  columns.map fun column => tableAlias ++ "." ++ column

end BoundSelect
