import BoundSelect.Operator
import BoundSelect.Value.Basic

set_option autoImplicit false

namespace BoundSelect

inductive Operand where
  | none
  | value (v : Value)
  | values (vs : List Value)

inductive Operand.Shape where
  | none
  | value
  | values (count : Nat)
  deriving DecidableEq, Repr

def Operand.shape : Operand → Operand.Shape
  | none => .none
  | value _ => .value
  | values vs => .values vs.length

def Operand.Shape.text : Operand.Shape → String
  | none => "no operand"
  | value => "a single value"
  | values count => s!"a list of {count} values"

structure Predicate where
  operator : Operator
  operand : Operand
  -- An operand that is not bound is written into the statement as it is, for comparing with other columns.
  bound : Bool := true

namespace Predicate

def value (o : Operator) (v : Value) : Predicate := { operator := o, operand := .value v }

def values (o : Operator) (vs : List Value) : Predicate := { operator := o, operand := .values vs }

def between (low high : Value) : Predicate := values .between [low, high]

def isNull : Predicate := { operator := .isNull, operand := .none }

def isNotNull : Predicate := { operator := .isNotNull, operand := .none }

def column (o : Operator) (other : String) : Predicate :=
  { operator := o, operand := .value (.text other), bound := false }

-- Tests for NULL bind nothing, whatever their operand.
def binds (p : Predicate) : Bool := p.bound && !p.operator.isNullTest

end Predicate

structure Condition where
  column : String
  predicate : Predicate

abbrev Conditions := List Condition

end BoundSelect
