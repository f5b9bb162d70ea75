import BoundSelect.Document.Form
import BoundSelect.Document.Predicate
import BoundSelect.Traced

set_option autoImplicit false

namespace BoundSelect.Document

def readJoin (body : Json) : Except Fault Join := do
  let form ← joinRecord.read body
  let on ← match form.conditions with
    | none => pure []
    | some conditions => readConditions conditions
  return {
    table := form.table.getD ""
    tableAlias := unlessBlank form.tableAlias
    side := (unlessBlank form.side).map SideChoice.ofName
    on }

def readUnionForm : Json → Except Fault UnionForm
  | .null => .error (.misshape .nullUnion)
  | .obj [] => .error (.misshape .emptyUnion)
  | body => unionRecord.read body

def readUnion (body : Json) : Except Fault Union := do
  let form ← readUnionForm body
  let kind ← match unlessBlank form.kind with
    | none => pure none
    | some kind => UnionKind.parse kind
  return {
    kind
    table := form.table.getD ""
    tableAlias := unlessBlank form.tableAlias
    columns := form.columns
    columnsAlias := unlessBlank form.columnsAlias }

def readEntry (entry : String × Json) : Traced (List Clause) := do
  match entry.1.toUpper with
  | "CONDITIONS" => return [.conditions (← readConditions entry.2)]
  | "JOIN" => return [.join (← readJoin entry.2)]
  | "UNION" => return [.union (← readUnion entry.2)]
  | _ =>
      Traced.report (.optionIgnored entry.1)
      return []

def readOption : Json → Traced (List Clause)
  | .obj entries => List.flatten <$> entries.mapM readEntry
  | other => Traced.fail (.misshape (.option other))

def readOptions (options : List Json) : Traced (List Clause) :=
  List.flatten <$> options.mapM readOption

end BoundSelect.Document
