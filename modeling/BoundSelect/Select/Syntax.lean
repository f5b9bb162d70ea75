import BoundSelect.Clause
import BoundSelect.Placeholder

set_option autoImplicit false

namespace BoundSelect

inductive Term where
  | none
  | literal (v : Value)
  | literals (vs : List Value)
  | slot (s : Slot)
  | slots (ss : List Slot)
  | range (low high : Slot)

def inParentheses (s : String) : String := "(" ++ s ++ ")"

namespace Term

def text : Term → String
  | none => ""
  | literal v => " " ++ v.literal
  | literals vs => " " ++ inParentheses (",".intercalate (vs.map Value.literal))
  | slot s => " " ++ s.placeholder
  | slots ss => " " ++ inParentheses (",".intercalate (ss.map Slot.placeholder))
  | range low high => " " ++ low.placeholder ++ " AND " ++ high.placeholder

def allSlots : Term → List Slot
  | none | literal _ | literals _ => []
  | slot s => [s]
  | slots ss => ss
  | range low high => [low, high]

end Term

structure Test where
  column : Identifier
  operator : Operator
  term : Term

def Test.text (t : Test) : String := t.column.text ++ " " ++ t.operator.text ++ t.term.text

def conjunction (tests : List Test) : String := " AND ".intercalate (tests.map Test.text)

structure Source where
  table : Identifier
  name : Name

def Source.text (s : Source) : String := s.table.text ++ " AS " ++ s.name.text

structure JoinedSource where
  side : Option Side
  source : Source
  on : List Test

namespace JoinedSource

def sideText : Option Side → String
  | none => ""
  | some side => side.text ++ " "

def text (j : JoinedSource) : String :=
  "\n" ++ sideText j.side ++ "JOIN " ++ j.source.text ++
    if j.on.isEmpty then "" else " ON " ++ conjunction j.on

end JoinedSource

-- The filters make up one condition, wherever among the joins they were given.
structure Segment where
  columns : List Identifier
  source : Source
  joins : List JoinedSource := []
  filters : List Test := []

namespace Segment

def whereText (filters : List Test) : String :=
  if filters.isEmpty then "" else "\n WHERE " ++ conjunction filters

def text (s : Segment) : String :=
  "SELECT " ++ ",".intercalate (s.columns.map Identifier.text) ++ " FROM " ++ s.source.text ++
    String.join (s.joins.map JoinedSource.text) ++ whereText s.filters

def tests (s : Segment) : List Test := s.joins.flatMap JoinedSource.on ++ s.filters

end Segment

structure Sorting where
  column : Identifier
  direction : Direction

def Sorting.text (s : Sorting) : String :=
  " ORDER BY " ++ s.column.text ++ " " ++ s.direction.text

def unionText (kind : Option UnionKind) : String :=
  match kind with
  | none => "\nUNION "
  | some kind => "\nUNION " ++ kind.text ++ " "

structure Chain where
  closed : List (Segment × Option UnionKind) := []
  last : Segment

namespace Chain

def segments (c : Chain) : List Segment := c.closed.map Prod.fst ++ [c.last]

-- The first SELECT names the statement.
def main (c : Chain) : Segment :=
  match c.closed with
  | [] => c.last
  | (first, _) :: _ => first

def extend (c : Chain) (kind : Option UnionKind) (next : Segment) : Chain :=
  { closed := c.closed ++ [(c.last, kind)], last := next }

def text (c : Chain) : String :=
  String.join (c.closed.map fun (segment, kind) => segment.text ++ unionText kind) ++ c.last.text

def slots (c : Chain) : List Slot :=
  c.segments.flatMap fun segment => segment.tests.flatMap fun test => test.term.allSlots

@[simp] theorem main_extend (c : Chain) (kind : Option UnionKind) (next : Segment) :
    (c.extend kind next).main = c.main := by
  rcases c with ⟨_ | ⟨⟨first, k⟩, rest⟩, last⟩ <;> rfl

@[simp] theorem segments_extend (c : Chain) (kind : Option UnionKind) (next : Segment) :
    (c.extend kind next).segments = c.segments ++ [next] := by
  simp [segments, extend]

end Chain

structure Select where
  chain : Chain
  sorting : Option Sorting := none
  limit : Option Limit := none

namespace Select

def tailText (sorting : Option Sorting) (limit : Option Limit) : String :=
  (sorting.map Sorting.text).getD "" ++ (limit.map Limit.text).getD ""

def text (s : Select) : String := s.chain.text ++ tailText s.sorting s.limit

end Select

end BoundSelect
