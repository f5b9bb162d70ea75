import BoundSelect.Document.Predicate
import BoundSelect.Proofs.Outcome

set_option autoImplicit false

namespace BoundSelect.Document

open Outcome

inductive Denotes : Json → Operand → Prop
  | null : Denotes .null .none
  | array (items : List Json) : Denotes (.arr items) (.values (items.map Value.ofJson))
  | single {j : Json} (present : j ≠ .null) (noArray : ∀ items, j ≠ .arr items) :
      Denotes j (.value (.ofJson j))

def flag (entries : List (String × Json)) : Json := (entries.lookup "process").getD (.bool true)

def unflagged (entries : List (String × Json)) : List (String × Json) := entries.filter (·.1 != "process")

inductive States : Json → String → Json → Bool → Prop
  | object {entries : List (String × Json)} {token : String} {operand : Json} {bound : Bool}
      (one : unflagged entries = [(token, operand)]) (flagged : flag entries = .bool bound) :
      States (.obj entries) token operand bound
  | alone (token : String) : States (.arr [.str token]) token .null true
  | pair (token : String) (operand : Json) : States (.arr [.str token, operand]) token operand true

-- A flag that is no truth value is seen first.
inductive Misshapen (column : String) : Json → Misshape → Prop
  | process {entries : List (String × Json)} (unflagged : ∀ b, flag entries ≠ .bool b) :
      Misshapen column (.obj entries) (.process column (flag entries))
  | noOperator {entries : List (String × Json)} {b : Bool} (flagged : flag entries = .bool b)
      (none : unflagged entries = []) : Misshapen column (.obj entries) (.noOperator column)
  | severalOperators {entries : List (String × Json)} {b : Bool} (flagged : flag entries = .bool b)
      (several : 1 < (unflagged entries).length) : Misshapen column (.obj entries) (.severalOperators column)
  | array {items : List Json} (unlike : ∀ token rest, items = .str token :: rest → 1 < rest.length) :
      Misshapen column (.arr items) (.predicateArray column)
  | neither {body : Json} (noObject : ∀ entries, body ≠ .obj entries) (noArray : ∀ items, body ≠ .arr items) :
      Misshapen column body (.predicate column body)

theorem denotes_iff {j : Json} {operand : Operand} : Denotes j operand ↔ readOperand j = operand := by
  constructor
  · rintro (_ | items | ⟨present, noArray⟩)
    · rfl
    · rfl
    · unfold readOperand
      split
      · exact absurd rfl present
      · exact absurd rfl (noArray _)
      · rfl
  · rintro rfl
    cases j with
    | null => exact .null
    | arr items => exact .array items
    | bool | num | str | obj => exact .single nofun nofun

theorem lookup_process (entries : List (String × Json)) :
    entries.lookup "process" = (entries.find? isProcess).map Prod.snd := by
  induction entries with
  | nil => rfl
  | cons entry rest ih =>
    rw [List.lookup_cons, List.find?_cons, isProcess, Bool.beq_comm, ih]
    cases entry.1 == "process" <;> rfl

theorem readBound_eq (column : String) (entries : List (String × Json)) :
    readBound column entries =
      match flag entries with
      | .bool b => .ok b
      | other => .error (.misshape (.process column other)) := by
  unfold readBound flag
  rw [lookup_process]
  cases entries.find? isProcess with
  | none => rfl
  | some entry => rcases entry with ⟨key, _ | b | n | s | items | fields⟩ <;> rfl

theorem parse_eq (token : String) (operand : Operand) :
    Predicate.parse token operand =
      match Operator.parse? token with
      | some operator => .ok { operator, operand }
      | none => .error (.operator token) := by
  unfold Predicate.parse Operator.parse
  cases Operator.parse? token <;> rfl

variable {column token : String} {body operand : Json} {bound : Bool}

theorem readPredicate_of_flag {entries : List (String × Json)} (flagged : flag entries = .bool bound) :
    readPredicate column (.obj entries) =
      match unflagged entries with
      | [] => .error (.misshape (.noOperator column))
      | [(token, operand)] => (fun p => { p with bound }) <$> Predicate.parse token (readOperand operand)
      | _ => .error (.misshape (.severalOperators column)) := by
  have read : readBound column entries = pure bound := by
    rw [readBound_eq, flagged]
    rfl
  rw [readPredicate, readPredicateObject, read, pure_bind]
  change (match unflagged entries with | [] => _ | [(token, operand)] => _ | _ => _) = _
  split <;> rfl

theorem readPredicate_of_states (states : States body token operand bound) :
    readPredicate column body =
      match Operator.parse? token with
      | some operator => .ok { operator, operand := readOperand operand, bound }
      | none => .error (.operator token) := by
  cases states with
  | object one flagged =>
    rw [readPredicate_of_flag flagged, one]
    dsimp only
    rw [parse_eq]
    cases Operator.parse? token <;> rfl
  | alone => exact parse_eq token .none
  | pair => exact parse_eq token (readOperand operand)

theorem readPredicate_of_misshapen {misshape : Misshape} (misshapen : Misshapen column body misshape) :
    readPredicate column body = .error (.misshape misshape) := by
  cases misshapen with
  | @process entries noFlag =>
    have refused : readBound column entries = .error (.misshape (.process column (flag entries))) := by
      rw [readBound_eq]
      split
      next b flagged => exact absurd flagged (noFlag b)
      next => rfl
    rw [readPredicate, readPredicateObject, refused]
    rfl
  | noOperator flagged none => rw [readPredicate_of_flag flagged, none]
  | severalOperators flagged several =>
    rw [readPredicate_of_flag flagged]
    split
    next none => simp [none] at several
    next one => simp [one] at several
    next => rfl
  | array unlike =>
    unfold readPredicate
    split
    next same => cases same
    next token same => exact absurd (unlike token [] (Json.arr.inj same)) (Nat.not_lt_zero 1)
    next token operand same => exact absurd (unlike token [operand] (Json.arr.inj same)) (Nat.lt_irrefl 1)
    next => rfl
    next noArray => exact absurd rfl (noArray _)
  | neither noObject noArray =>
    unfold readPredicate
    split
    next => exact absurd rfl (noObject _)
    next => exact absurd rfl (noArray _)
    next => exact absurd rfl (noArray _)
    next => exact absurd rfl (noArray _)
    next => rfl

theorem states_or_misshapen (column : String) (body : Json) :
    (∃ token operand bound, States body token operand bound) ∨ ∃ misshape, Misshapen column body misshape := by
  cases body with
  | obj entries =>
    by_cases flagged : ∃ b, flag entries = .bool b
    · obtain ⟨b, flagged⟩ := flagged
      rcases split : unflagged entries with _ | ⟨⟨token, operand⟩, _ | ⟨second, rest⟩⟩
      · exact .inr ⟨_, .noOperator flagged split⟩
      · exact .inl ⟨_, _, _, .object split flagged⟩
      · exact .inr ⟨_, .severalOperators flagged (by simp [split])⟩
    · exact .inr ⟨_, .process fun b same => flagged ⟨b, same⟩⟩
  | arr items =>
    by_cases like : ∃ token rest, items = .str token :: rest ∧ rest.length ≤ 1
    · obtain ⟨token, rest, rfl, short⟩ := like
      rcases rest with _ | ⟨operand, _ | ⟨second, more⟩⟩
      · exact .inl ⟨_, _, _, .alone token⟩
      · exact .inl ⟨_, _, _, .pair token operand⟩
      · simp at short
    · exact .inr ⟨_, .array fun token rest same => Nat.lt_of_not_le fun short => like ⟨token, rest, same, short⟩⟩
  | null | bool | num | str => exact .inr ⟨_, .neither nofun nofun⟩

theorem readPredicate_eq_ok_iff {p : Predicate} :
    readPredicate column body = .ok p ↔ ∃ token operand, States body token operand p.bound ∧
      Operator.parse? token = some p.operator ∧ Denotes operand p.operand := by
  constructor
  · intro read
    rcases states_or_misshapen column body with ⟨token, operand, bound, states⟩ | ⟨misshape, misshapen⟩
    · rw [readPredicate_of_states states] at read
      split at read
      next operator known =>
        obtain rfl := Except.ok.inj read
        exact ⟨token, operand, states, known, denotes_iff.2 rfl⟩
      next => cases read
    · cases (readPredicate_of_misshapen misshapen).symm.trans read
  · rintro ⟨token, operand, states, known, denotes⟩
    rw [readPredicate_of_states states, known, denotes_iff.1 denotes]

end BoundSelect.Document
