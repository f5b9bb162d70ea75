import BoundSelect.Proofs.Identifier.Dots
import BoundSelect.Proofs.Select.Slots

set_option autoImplicit false

namespace BoundSelect

namespace Reference

open Text

def column (owner written : String) : String :=
  if isQualified written then written else owner ++ "." ++ written

def columns (owner : String) (columns : List String) : List String :=
  if columns.isEmpty then [owner ++ ".*"] else columns.map (column owner)

def columnList (owner : String) (columns : List String) : String :=
  if columns.isEmpty then owner ++ ".*" else ",".intercalate (columns.map (column owner))

def initial (table : String) : Char :=
  (((lastPart table).toList.find? Char.isAlpha).map Char.toLower).getD 't'

def numbered (letter : Char) (n : Nat) : String := String.singleton letter ++ toString n

-- There are more of these numbers than aliases in use, so one of them is free.
def leastFree (letter : Char) (taken : List String) (next : Nat) : Nat :=
  ((List.range' next (taken.length + 1)).find? fun n => numbered letter n ∉ taken).getD next

def chosen (pool : AliasPool) (explicit : Option String) (table : String) : String × AliasPool :=
  match explicit with
  | some text => (text, pool)
  | none =>
      let n := leastFree (initial table) pool.taken pool.next
      let letters := numbered (initial table) n
      (letters, { next := n + 1, taken := letters :: pool.taken })

def placeholder (tag index : Nat) : String := ":" ++ Tag.text tag ++ toString index

def boundOperand (o : Operator) (operand : Operand) (tag : Nat) : String :=
  match o with
  | .isNull | .isNotNull => ""
  | .isIn | .notIn =>
      let count := operand.allValues.length
      " " ++ inParentheses (",".intercalate ((List.range count).map (placeholder tag)))
  | .between => " " ++ placeholder tag 0 ++ " AND " ++ placeholder tag 1
  | .equal | .notEqual | .greater | .greaterOrEqual | .less | .lessOrEqual =>
      " " ++ placeholder tag 0

def operand (p : Predicate) (tag : Nat) : String :=
  if p.bound then boundOperand p.operator p.operand tag
  else (Predicate.unboundTerm p.operand).text

def test (owner : String) (tag : Nat) (c : Condition) : String :=
  column owner c.column ++ " " ++ c.predicate.operator.text ++ operand c.predicate tag

def tests (owner : String) (tag : Nat) (cs : Conditions) : List String :=
  (cs.number tag).map fun (tag, c) => test owner tag c

-- The owner is the alias of the last table so far, the tag the number of predicates before that bind.
structure Labelled where
  clause : Clause
  owner : String
  tag : Nat

def named (owner : String) (pool : AliasPool) : Clause → String × AliasPool
  | .conditions _ => (owner, pool)
  | .join j => chosen pool j.tableAlias j.table
  | .union u => chosen pool u.tableAlias u.table

def label (owner : String) (pool : AliasPool) (tag : Nat) : List Clause → List Labelled
  | [] => []
  | c :: rest =>
      let (owner, pool) := named owner pool c
      { clause := c, owner, tag } :: label owner pool (tag + c.tested.bindCount) rest

def side : Option SideChoice → String
  | some (.known side) => side.text ++ " "
  | _ => ""

def joined (l : Labelled) : String :=
  match l.clause with
  | .join j =>
      "\n" ++ side j.side ++ "JOIN " ++ j.table ++ " AS " ++ l.owner ++
        if j.on.isEmpty then "" else " ON " ++ " AND ".intercalate (tests l.owner l.tag j.on)
  | _ => ""

def filters (l : Labelled) : List String :=
  match l.clause with
  | .conditions cs => tests l.owner l.tag cs
  | _ => []

def condition (tests : List String) : String :=
  if tests.isEmpty then "" else "\n WHERE " ++ " AND ".intercalate tests

def selectText (columns table name : String) (own : List Labelled) : String :=
  "SELECT " ++ columns ++ " FROM " ++ table ++ " AS " ++ name ++ String.join (own.map joined) ++
    condition (own.flatMap filters)

def Labelled.isUnion (l : Labelled) : Bool := l.clause matches .union _

def own (clauses : List Labelled) : List Labelled := clauses.takeWhile fun l => !l.isUnion

def union : Option UnionKind → String
  | none => "\nUNION "
  | some .all => "\nUNION ALL "
  | some .distinct => "\nUNION DISTINCT "

def taken (u : Union) (left : List String) : List String := u.columns.getD (left.map lastPart)

def unions (left : List String) : List Labelled → String
  | [] => ""
  | l :: rest =>
      match l.clause with
      | .union u =>
          union u.kind ++
            selectText (columnList (u.columnsAlias.getD l.owner) (taken u left)) u.table l.owner
              (own rest) ++
            unions (taken u left) rest
      | _ => unions left rest

def direction : Direction → String
  | .ascending => " ASC"
  | .descending => " DESC"

def order (owner : String) (o : OrderBy) : String :=
  " ORDER BY " ++ column owner o.column ++ direction o.direction

def offset : Option UInt64 → String
  | none => ""
  | some m => if m = 0 then "" else " OFFSET " ++ toString m

def limit (l : Limit) : String := " LIMIT " ++ toString l.limit ++ offset l.offset

def reserved (q : Query) : AliasPool :=
  .ofAliases (q.tableAlias.toList ++ q.clauses.filterMap Clause.tableAlias?)

end Reference

open Reference in
def Query.reference (q : Query) : String :=
  let (main, pool) := chosen (reserved q) q.tableAlias q.table
  let clauses := label main pool 0 q.clauses
  selectText (columnList main q.columns) q.table main (own clauses) ++ unions q.columns clauses ++
    (q.orderBy.map (order main)).getD "" ++ (q.limit.map Reference.limit).getD "" ++ ";"

end BoundSelect
