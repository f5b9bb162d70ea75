import BoundSelect.AliasPool
import BoundSelect.Select.Query
import BoundSelect.Select.Resolution
import BoundSelect.Traced

set_option autoImplicit false

namespace BoundSelect

structure Draft where
  chain : Chain
  -- The alias that bare columns belong to: that of the last table so far.
  owner : Name
  pool : AliasPool
  nextTag : Nat := 0

namespace Draft

def selected (owner : Name) (columns : List Identifier) : List Identifier :=
  if columns.isEmpty then [{ path := [owner], last := .star }]
  else columns.map (Identifier.qualify owner)

def parseTable (subject : Subject) (table : String) : Except Fault Identifier :=
  if Text.isAllBlank table then .error (.unspecified subject) else Identifier.parse table

def parseColumns (columns : List String) : Except Fault (List Identifier) :=
  columns.mapM fun column => (Identifier.parseColumn column : Except Fault Identifier)

def start (q : Query) : Except Fault Draft := do
  let table ← parseTable .table q.table
  let reserved := AliasPool.ofAliases (q.clauses.filterMap Clause.tableAlias?)
  let (name, pool) ← reserved.choose q.tableAlias table
  let columns ← parseColumns q.columns
  return {
    chain := { last := { columns := selected name columns, source := { table, name } } }
    owner := name
    pool := if q.tableAlias.isSome then pool.reserve name else pool }

def addConditions (d : Draft) (cs : Conditions) : Except Fault Draft := do
  let tests ← cs.resolve d.owner d.nextTag
  return { d with
    chain.last.filters := d.chain.last.filters ++ tests
    nextTag := d.nextTag + cs.bindCount }

def resolveSide (settings : Settings) (j : Join) : Traced (Option Side) :=
  match j.side with
  | none => pure none
  | some (.known side) => pure (some side)
  | some (.unrecognized name) =>
      if settings.strictSides then Traced.fail (.side name)
      else do
        -- The join stays, without a side.
        Traced.report (.sideDropped name j.table)
        return none

def addJoin (settings : Settings) (d : Draft) (j : Join) : Traced Draft := do
  let table ← parseTable .joinTable j.table
  let (name, pool) ← d.pool.choose j.tableAlias table
  let side ← resolveSide settings j
  let on ← j.on.resolve name d.nextTag
  return { d with
    chain.last.joins := d.chain.last.joins ++ [{ side, source := { table, name }, on }]
    owner := name
    pool
    nextTag := d.nextTag + j.on.bindCount }

def unionQualifier (u : Union) (name : Name) : Except Fault Name :=
  match u.columnsAlias with
  | some text => (Name.parse text : Except Fault Name)
  | none => return name

def unionColumns (u : Union) (left : List Identifier) : Except Fault (List Identifier) :=
  match u.columns with
  | some columns => parseColumns columns
  | none => return left.map Identifier.bare

-- The next SELECT knows nothing of the one before it but its columns.
def addUnion (d : Draft) (u : Union) : Except Fault Draft := do
  let table ← parseTable .unionTable u.table
  let (name, pool) ← d.pool.choose u.tableAlias table
  let qualifier ← unionQualifier u name
  let columns ← unionColumns u d.chain.last.columns
  return {
    chain := d.chain.extend u.kind
      { columns := selected qualifier columns, source := { table, name } }
    owner := name
    pool
    nextTag := d.nextTag }

def add (settings : Settings) (d : Draft) : Clause → Traced Draft
  | .conditions cs => d.addConditions cs
  | .join j => d.addJoin settings j
  | .union u => d.addUnion u

end Draft

namespace OrderBy

def resolve (o : OrderBy) (qualify : Identifier → Identifier) : Except Fault Sorting := do
  let column ← Identifier.parseColumn o.column
  return { column := qualify column, direction := o.direction }

def resolveGiven (o : Option OrderBy) (qualify : Identifier → Identifier) :
    Except Fault (Option Sorting) :=
  match o with
  | none => return none
  | some o => some <$> o.resolve qualify

end OrderBy

namespace Query

def draft (q : Query) : Traced Draft := do
  let start ← Draft.start q
  q.clauses.foldlM (Draft.add q.settings) start

def select (q : Query) : Traced Select := do
  let d ← q.draft
  let sorting ← OrderBy.resolveGiven q.orderBy (Identifier.qualify d.chain.main.source.name)
  return { chain := d.chain, sorting, limit := q.limit }

end Query

end BoundSelect
