import BoundSelect.Text.Keyword

set_option autoImplicit false

namespace BoundSelect

inductive Operator where
  | equal | greater | greaterOrEqual | less | lessOrEqual | notEqual
  | isIn | notIn | between | isNull | isNotNull
  deriving DecidableEq, Repr

namespace Operator

def text : Operator → String
  | equal => "="
  | greater => ">"
  | greaterOrEqual => ">="
  | less => "<"
  | lessOrEqual => "<="
  | notEqual => "<>"
  | isIn => "IN"
  | notIn => "NOT IN"
  | between => "BETWEEN"
  | isNull => "IS NULL"
  | isNotNull => "IS NOT NULL"

def all : List Operator :=
  [equal, greater, greaterOrEqual, less, lessOrEqual, notEqual, isIn, notIn, between, isNull,
   isNotNull]

theorem mem_all (o : Operator) : o ∈ all := by cases o <;> decide

def parse? (token : String) : Option Operator := Text.findKeyword text all token

def isNullTest : Operator → Bool
  | isNull | isNotNull => true
  | _ => false

end Operator

end BoundSelect
