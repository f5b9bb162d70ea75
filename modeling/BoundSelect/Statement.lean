import BoundSelect.Binds
import BoundSelect.Select.Assembly

set_option autoImplicit false

namespace BoundSelect

structure Statement where
  -- As the caller gave them.
  columns : List String
  select : Select

namespace Statement

def table (s : Statement) : Identifier := s.select.chain.main.source.table

def tableAlias (s : Statement) : Name := s.select.chain.main.source.name

def body (s : Statement) : String := s.select.text

def text (s : Statement) : String := s.body ++ ";"

def binds (s : Statement) : Binds := .ofSlots s.select.chain.slots

end Statement

structure RecursiveStatement where
  name : Name
  base : Statement
  sorting : Option Sorting
  limit : Option Limit

namespace RecursiveStatement

def columns? (s : RecursiveStatement) : Option (List Identifier) :=
  let bare := s.base.select.chain.main.columns.map Identifier.bare
  if bare.any fun column => column.last = .star then none else some bare

def columnsText (s : RecursiveStatement) : String :=
  match s.columns? with
  | none => ""
  | some columns => " " ++ inParentheses (",".intercalate (columns.map Identifier.text))

def text (s : RecursiveStatement) : String :=
  "WITH RECURSIVE " ++ s.name.text ++ s.columnsText ++ "\n  AS " ++ inParentheses s.base.body ++
    "\nSELECT * FROM " ++ s.name.text ++ Select.tailText s.sorting s.limit ++ ";"

def binds (s : RecursiveStatement) : Binds := s.base.binds

end RecursiveStatement

def Settings.reportStatement (s : Settings) (kind : StatementKind) (table : String) (binds : Binds)
    (text : String) : Traced Unit :=
  match s.reporting with
  | none => pure ()
  | some r =>
      Traced.report (.assembled r.level kind table binds.size (Text.clip r.limit text))

namespace Query

-- A statement that is embedded in another one is not reported on its own.
def fragment (q : Query) : Traced Statement := do
  return { columns := q.columns, select := ← q.select }

def build (q : Query) : Traced Statement := do
  let s ← q.fragment
  q.settings.reportStatement .select s.table.text s.binds s.text
  return s

end Query

namespace RecursiveQuery

def build (q : RecursiveQuery) : Traced RecursiveStatement := do
  if Text.isAllBlank q.name then Traced.fail (.unspecified .recursionName)
  let name ← (Name.parse q.name : Except Fault Name)
  if q.body.orderBy.isSome || q.body.limit.isSome then Traced.fail .orderedBody
  let base ← q.body.fragment
  -- The outer SELECT reads one table, so its columns stay as they are.
  let sorting ← OrderBy.resolveGiven q.orderBy id
  let s : RecursiveStatement := { name, base, sorting, limit := q.limit }
  q.body.settings.reportStatement .recursive name.text s.binds s.text
  return s

end RecursiveQuery

end BoundSelect
