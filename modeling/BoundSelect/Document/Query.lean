import BoundSelect.Document.Clause
import BoundSelect.Json.Reader
import BoundSelect.Select.Query

set_option autoImplicit false

namespace BoundSelect

namespace Document

def readOrderBy (form : Option OrderByForm) : Except Fault (Option OrderBy) :=
  match form with
  | none => return none
  | some form => return some { column := form.column, direction := ← Direction.parse form.direction }

def readQuery (form : StatementForm) : Traced Query := do
  let clauses ← readOptions form.options
  let orderBy ← readOrderBy form.orderBy
  return {
    table := form.table.getD ""
    columns := form.columns.getD []
    clauses
    orderBy
    limit := form.limit }

end Document

open Document

def Query.ofJson (document : Json) : Traced Query := do
  let form ← (statementRecord.read document : Except Fault StatementForm)
  readQuery form

def RecursiveQuery.ofJson (document : Json) : Traced RecursiveQuery := do
  let form ← (statementRecord.read document : Except Fault StatementForm)
  let body ← readQuery form
  let orderBy ← readOrderBy form.recursionOrderBy
  return {
    body
    name := form.recursionName.getD ""
    orderBy
    limit := form.recursionLimit }

end BoundSelect
