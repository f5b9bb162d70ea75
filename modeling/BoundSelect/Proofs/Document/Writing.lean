import BoundSelect.Document.Query

set_option autoImplicit false

namespace BoundSelect

namespace Json

def ofEntries (entries : List (String × Json)) : Json :=
  .obj (entries.foldl (fun fields entry => setField entry.1 entry.2 fields) [])

def present (fields : List (String × Option Json)) : List (String × Json) :=
  fields.filterMap fun field => field.2.map (field.1, ·)

def ofFields (fields : List (String × Option Json)) : Json := ofEntries (present fields)

def ofTexts (texts : List String) : Json := .arr (texts.map str)

def ofUInt64 (n : UInt64) : Json := .num (.ofUInt64 n)

end Json

def Operand.toJson : Operand → Json
  | none => .null
  | value v => v.toJson
  | values vs => .arr (vs.map Value.toJson)

def Predicate.toJson (p : Predicate) : Json :=
  .ofEntries [(p.operator.text, p.operand.toJson), ("process", .bool p.bound)]

def Conditions.toJson (cs : Conditions) : Json :=
  .ofEntries (cs.map fun c => (c.column, c.predicate.toJson))

def SideChoice.text : SideChoice → String
  | known side => side.text
  | unrecognized name => name

def Join.fields (j : Join) : List (String × Option Json) := [
  ("table", some (.str j.table)),
  ("alias", j.tableAlias.map .str),
  ("side", j.side.map fun side => .str side.text),
  ("conditions", some j.on.toJson)]

def Join.toJson (j : Join) : Json := .ofFields j.fields

def Union.fields (u : Union) : List (String × Option Json) := [
  ("type", u.kind.map fun kind => .str kind.text),
  ("table", some (.str u.table)),
  ("alias", u.tableAlias.map .str),
  ("columns", u.columns.map .ofTexts),
  ("columns_alias", u.columnsAlias.map .str)]

def Union.toJson (u : Union) : Json := .ofFields u.fields

def Clause.toJson : Clause → Json
  | conditions cs => .ofEntries [("CONDITIONS", cs.toJson)]
  | join j => .ofEntries [("JOIN", j.toJson)]
  | union u => .ofEntries [("UNION", u.toJson)]

def OrderBy.toJson (o : OrderBy) : Json :=
  .ofFields [("column", some (.str o.column)), ("direction", some (.str o.direction.text))]

def Limit.toJson (l : Limit) : Json :=
  .ofFields [("limit", some (.ofUInt64 l.limit)), ("offset", l.offset.map .ofUInt64)]

def Query.fields (q : Query) : List (String × Option Json) := [
  ("table", some (.str q.table)),
  ("columns", some (.ofTexts q.columns)),
  ("options", some (.arr (q.clauses.map Clause.toJson))),
  ("order_by", q.orderBy.map OrderBy.toJson),
  ("limit", q.limit.map Limit.toJson)]

def Query.toJson (q : Query) : Json := .ofFields q.fields

def RecursiveQuery.fields (r : RecursiveQuery) : List (String × Option Json) :=
  r.body.fields ++ [
    ("recursion_name", some (.str r.name)),
    ("recursion_order_by", r.orderBy.map OrderBy.toJson),
    ("recursion_limit", r.limit.map Limit.toJson)]

def RecursiveQuery.toJson (r : RecursiveQuery) : Json := .ofFields r.fields

-- Values that are told apart in JSON. Dates, for one, are texts there.
inductive Value.Representable : Value → Prop
  | null : Representable .null
  | bool (b : Bool) : Representable (.bool b)
  | int (n : Int64) : Representable (.int n)
  | uint {n : UInt64} (large : Int64.maxValue.toNatClampNeg < n.toNat) : Representable (.uint n)
  | float {x : Float} (finite : x.isFinite = true) : Representable (.float x)
  | text (s : String) : Representable (.text s)
  | array (items : List Json) : Representable (.json (.arr items))
  | object (fields : List (String × Json)) : Representable (.json (.obj fields))

-- A single value must not look like no operand, or like a list of values.
inductive Operand.Writable : Operand → Prop
  | none : Writable .none
  | value {v : Value} (representable : v.Representable) (present : v ≠ .null)
      (single : ∀ items, v ≠ .json (.arr items)) : Writable (.value v)
  | values {vs : List Value} (representable : ∀ v ∈ vs, v.Representable) : Writable (.values vs)

structure Conditions.Writable (cs : Conditions) : Prop where
  distinct : (cs.map Condition.column).Nodup
  operands : ∀ c ∈ cs, c.predicate.operand.Writable

def Given (text : Option String) : Prop := ∀ s, text = some s → Text.isAllBlank s = false

structure Join.Writable (j : Join) : Prop where
  tableAlias : Given j.tableAlias
  side : ∀ name, j.side = some (.unrecognized name) →
    Text.isAllBlank name = false ∧ SideChoice.ofName name = .unrecognized name
  on : j.on.Writable

structure Union.Writable (u : Union) : Prop where
  tableAlias : Given u.tableAlias
  columnsAlias : Given u.columnsAlias

def Clause.Writable : Clause → Prop
  | conditions cs => cs.Writable
  | join j => j.Writable
  | union u => u.Writable

-- A document has no place for an alias of the main table and for settings.
structure Query.Writable (q : Query) : Prop where
  tableAlias : q.tableAlias = none
  settings : q.settings = {}
  clauses : ∀ c ∈ q.clauses, c.Writable

end BoundSelect
