import BoundSelect.Fault

set_option autoImplicit false

namespace BoundSelect

inductive Side where
  | left | right | outer | inner | fullOuter
  deriving DecidableEq, Repr

namespace Side

def text : Side → String
  | left => "LEFT"
  | right => "RIGHT"
  | outer => "OUTER"
  | inner => "INNER"
  | fullOuter => "FULL OUTER"

def all : List Side := [left, right, outer, inner, fullOuter]

theorem mem_all (s : Side) : s ∈ all := by cases s <;> decide

def parse? (name : String) : Option Side := Text.findKeyword text all name

end Side

inductive SideChoice where
  | known (side : Side)
  | unrecognized (name : String)
  deriving DecidableEq, Repr

def SideChoice.ofName (name : String) : SideChoice :=
  match Side.parse? name with
  | some side => known side
  | none => unrecognized name

structure Join where
  table : String
  tableAlias : Option String := none
  side : Option SideChoice := none
  on : Conditions := []

inductive UnionKind where
  | all | distinct
  deriving DecidableEq, Repr

namespace UnionKind

def text : UnionKind → String
  | all => "ALL"
  | distinct => "DISTINCT"

def parse (kind : String) : Except Fault (Option UnionKind) :=
  match Text.keyword kind with
  -- No kind at all is a plain UNION.
  | "" => .ok none
  | "ALL" => .ok (some all)
  | "DISTINCT" => .ok (some distinct)
  | other => .error (.unionKind other)

end UnionKind

structure Union where
  kind : Option UnionKind := none
  table : String
  tableAlias : Option String := none
  -- Without columns of its own it takes over those of the SELECT on its left.
  columns : Option (List String) := none
  -- Qualifies the columns in place of the alias of the table.
  columnsAlias : Option String := none
  deriving DecidableEq, Repr

inductive Clause where
  | conditions (cs : Conditions)
  | join (j : Join)
  | union (u : Union)

def Clause.tableAlias? : Clause → Option String
  | conditions _ => none
  | join j => j.tableAlias
  | union u => u.tableAlias

inductive Direction where
  | ascending | descending
  deriving DecidableEq, Repr

namespace Direction

def text : Direction → String
  | ascending => "ASC"
  | descending => "DESC"

def parse (direction : String) : Except Fault Direction :=
  match Text.keyword direction with
  | "" | "ASC" => .ok ascending
  | "DESC" => .ok descending
  | other => .error (.direction other)

end Direction

structure OrderBy where
  column : String
  direction : Direction
  deriving DecidableEq, Repr

structure Limit where
  limit : UInt64
  offset : Option UInt64 := none
  deriving DecidableEq, Repr

-- An offset of zero is left out.
def Limit.text (l : Limit) : String :=
  match l.offset with
  | some offset => if offset > 0 then s!" LIMIT {l.limit} OFFSET {offset}" else s!" LIMIT {l.limit}"
  | none => s!" LIMIT {l.limit}"

end BoundSelect
