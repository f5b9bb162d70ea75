import BoundSelect.Select.Syntax

set_option autoImplicit false

namespace BoundSelect

namespace Predicate

-- An operand that is written out may have any form.
def unboundTerm : Operand → Term
  | .none => .none
  | .value v => .literal v
  | .values vs => .literals vs

def boundTerm (o : Operator) (operand : Operand) (tag : Nat) : Except Misfit Term :=
  match o with
  | .isNull | .isNotNull => .ok .none
  | .isIn | .notIn =>
      match operand with
      | .values [] => .error .noValues
      | .values vs => .ok (.slots (Slot.ofValues tag vs))
      | other => .error (.notValues other.shape)
  | .between =>
      match operand with
      | .values [low, high] => .ok (.range ⟨tag, 0, low⟩ ⟨tag, 1, high⟩)
      | other => .error (.notTwoValues other.shape)
  | .equal | .notEqual | .greater | .greaterOrEqual | .less | .lessOrEqual =>
      match operand with
      | .value v => .ok (.slot ⟨tag, 0, v⟩)
      | other => .error (.notOneValue other.shape)

def term (p : Predicate) (tag : Nat) : Except Fault Term :=
  if p.bound then (boundTerm p.operator p.operand tag).mapError (.operand p.operator)
  else .ok (unboundTerm p.operand)

end Predicate

def Condition.resolve (owner : Name) (tag : Nat) (c : Condition) : Except Fault Test := do
  let column ← Identifier.parseColumn c.column
  let term ← c.predicate.term tag
  return { column := column.qualify owner, operator := c.predicate.operator, term }

namespace Conditions

def bindCount (cs : Conditions) : Nat := cs.countP fun c => c.predicate.binds

def number : Nat → Conditions → List (Nat × Condition)
  | _, [] => []
  | tag, c :: rest => (tag, c) :: number (if c.predicate.binds then tag + 1 else tag) rest

def resolve (owner : Name) (tag : Nat) (cs : Conditions) : Except Fault (List Test) :=
  (number tag cs).mapM fun (tag, c) => c.resolve owner tag

theorem bindCount_append (cs ds : Conditions) : (cs ++ ds).bindCount = cs.bindCount + ds.bindCount :=
  List.countP_append

theorem number_append (tag : Nat) (cs ds : Conditions) :
    number tag (cs ++ ds) = number tag cs ++ number (tag + bindCount cs) ds := by
  induction cs generalizing tag with
  | nil => rfl
  | cons c rest ih =>
      by_cases h : c.predicate.binds <;>
        simp [number, bindCount, ih, h, Nat.add_assoc, Nat.add_comm 1]

end Conditions

end BoundSelect
