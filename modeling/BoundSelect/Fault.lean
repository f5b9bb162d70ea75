import BoundSelect.Identifier.Reader
import BoundSelect.Json.Numeral
import BoundSelect.Json.Writer
import BoundSelect.Predicate
import BoundSelect.Text.Unprintable

set_option autoImplicit false

namespace BoundSelect

inductive Subject where
  | table | joinTable | unionTable | recursionName
  deriving DecidableEq, Repr

def Subject.text : Subject → String
  | table => "Table"
  | joinTable => "JOIN table"
  | unionTable => "UNION table"
  | recursionName => "Recursion name"

inductive Misfit where
  | notOneValue (found : Operand.Shape)
  | notValues (found : Operand.Shape)
  | noValues
  | notTwoValues (found : Operand.Shape)
  deriving DecidableEq, Repr

def Misfit.message : Misfit → String
  | notOneValue found => s!"expected a single value, got {found.text}"
  | notValues found => s!"expected a list of values, got {found.text}"
  | noValues => "list must not be empty"
  | notTwoValues found => s!"expected a list of exactly two values, got {found.text}"

inductive Misshape where
  | option (found : Json)
  | conditions (found : Json)
  | predicateArray (column : String)
  | predicate (column : String) (found : Json)
  | process (column : String) (found : Json)
  | noOperator (column : String)
  | severalOperators (column : String)
  | nullUnion
  | emptyUnion

def Misshape.message : Misshape → String
  | option found => s!"Option entries must be objects, got {found.text}"
  | conditions found => s!"CONDITIONS must be an object, got {found.text}"
  | predicateArray column => s!"Predicate for '{column}' must be [operator, operand]"
  | predicate column found => s!"Predicate for '{column}' must be an object, got {found.text}"
  | process column found => s!"'process' for '{column}' must be a boolean, got {found.text}"
  | noOperator column => s!"Predicate for '{column}' has no operator"
  | severalOperators column => s!"Predicate for '{column}' has more than one operator"
  | nullUnion => "UNION description is missing"
  | emptyUnion => "UNION description is empty"

inductive Mismatch where
  | type (found : Json) (expected : String)
  | negative (n : Int64)
  | missing (field : String)
  | duplicate (field : String)
  | tooFew (count : Nat) (record : String) (fields : Nat)
  | tooMany (count : Nat)

def Json.described : Json → String
  | .null => "null"
  | .bool b => s!"boolean `{Json.text (.bool b)}`"
  | .num (.float x finite) => s!"floating point `{Number.text (.float x finite)}`"
  | .num n => s!"integer `{n.text}`"
  | .str s => s!"string {Text.reveal s}"
  | .arr _ => "sequence"
  | .obj _ => "map"

def Mismatch.message : Mismatch → String
  | type found expected => s!"invalid type: {found.described}, expected {expected}"
  | negative n => s!"invalid value: integer `{n}`, expected u64"
  | missing field => s!"missing field `{field}`"
  | duplicate field => s!"duplicate field `{field}`"
  | tooFew count record fields =>
      s!"invalid length {count}, expected struct {record} with {fields} elements"
  | tooMany count => s!"invalid length {count}, expected fewer elements in array"

inductive Fault where
  | unspecified (subject : Subject)
  | identifier (flaw : Identifier.Flaw)
  | side (name : String)
  | unionKind (keyword : String)
  | direction (keyword : String)
  | orderedBody
  | misshape (misshape : Misshape)
  | operand (operator : Operator) (misfit : Misfit)
  | operator (token : String)
  | mismatch (mismatch : Mismatch)
  | text (failure : Json.Failure)

namespace Fault

inductive Kind where
  | description | operand | operator | json
  deriving DecidableEq, Repr

def kind : Fault → Kind
  | operand .. => .operand
  | operator _ => .operator
  | mismatch _ | text _ => .json
  | _ => .description

def message : Fault → String
  | unspecified subject => s!"Config error: {subject.text} should be specified"
  | identifier flaw => s!"Config error: {flaw.message}"
  | side name => s!"Config error: Unknown JOIN side '{name}'"
  | unionKind keyword => s!"Config error: Unknown UNION type '{keyword}'"
  | direction keyword => s!"Config error: Unknown sort direction '{keyword}'"
  | orderedBody =>
      "Config error: ORDER BY / LIMIT of a recursive statement belong on the RecursiveQuery"
  | misshape m => s!"Config error: {m.message}"
  | operand o misfit => s!"Invalid operand for {o.text}: {misfit.message}"
  | operator token => s!"Unknown operator: {token}"
  | mismatch m => s!"JSON error: {m.message}"
  | text .cutShort => "JSON error: the text ends too early"
  | text .malformed => "JSON error: the text is malformed"

end Fault

instance : MonadLift (Except Identifier.Flaw) (Except Fault) := ⟨Except.mapError .identifier⟩

instance : MonadLift (Except Mismatch) (Except Fault) := ⟨Except.mapError .mismatch⟩

namespace Operator

def parse (token : String) : Except Fault Operator :=
  match parse? token with
  | some o => .ok o
  | none => .error (.operator token)

end Operator

def Predicate.parse (token : String) (operand : Operand) : Except Fault Predicate := do
  return { operator := ← Operator.parse token, operand }

end BoundSelect
