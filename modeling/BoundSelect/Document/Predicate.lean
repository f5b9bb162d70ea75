import BoundSelect.Fault

set_option autoImplicit false

namespace BoundSelect.Document

def readOperand : Json → Operand
  | .null => .none
  | .arr items => .values (items.map Value.ofJson)
  | other => .value (.ofJson other)

def isProcess (entry : String × Json) : Bool := entry.1 == "process"

def readBound (column : String) (entries : List (String × Json)) : Except Fault Bool :=
  match entries.find? isProcess with
  | none => .ok true
  | some (_, .bool b) => .ok b
  | some (_, other) => .error (.misshape (.process column other))

def readPredicateObject (column : String) (entries : List (String × Json)) :
    Except Fault Predicate := do
  let bound ← readBound column entries
  match entries.filter (!isProcess ·) with
  | [] => throw (.misshape (.noOperator column))
  | [(token, operand)] => return { ← Predicate.parse token (readOperand operand) with bound }
  | _ => throw (.misshape (.severalOperators column))

def readPredicate (column : String) : Json → Except Fault Predicate
  | .obj entries => readPredicateObject column entries
  | .arr [.str token] => Predicate.parse token .none
  | .arr [.str token, operand] => Predicate.parse token (readOperand operand)
  | .arr _ => .error (.misshape (.predicateArray column))
  | other => .error (.misshape (.predicate column other))

def readCondition (entry : String × Json) : Except Fault Condition := do
  return { column := entry.1, predicate := ← readPredicate entry.1 entry.2 }

def readConditions : Json → Except Fault Conditions
  | .null => .ok []
  | .obj entries => entries.mapM readCondition
  | other => .error (.misshape (.conditions other))

end BoundSelect.Document
