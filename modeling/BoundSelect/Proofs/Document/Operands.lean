import BoundSelect.Proofs.Document.Fields
import BoundSelect.Proofs.Document.Predicates
import BoundSelect.Proofs.Document.Reading
import BoundSelect.Proofs.Statement.Values

set_option autoImplicit false

namespace BoundSelect

namespace Json

def items : Json → List Json
  | .arr items => items
  | _ => []

def entries : Json → List (String × Json)
  | .obj entries => entries
  | _ => []

def elements : Json → List Json
  | .arr items => items
  | other => [other]

end Json

def Predicate.boundOperand? (p : Predicate) : Option Operand := if p.binds then some p.operand else none

def Conditions.boundOperands (cs : Conditions) : List Operand :=
  cs.filterMap fun c => c.predicate.boundOperand?

theorem Conditions.operands_binding (cs : Conditions) :
    cs.binding.map Predicate.operand = cs.boundOperands := by
  induction cs with
  | nil => rfl
  | cons c rest ih =>
    by_cases binds : c.predicate.binds
    · simp_all [binding, boundOperands, Predicate.boundOperand?]
    · simp_all [binding, boundOperands, Predicate.boundOperand?]

namespace Document

open Outcome

def isNullTest (token : String) : Bool := (Operator.parse? token).any Operator.isNullTest

def comparedWith? (token : String) (operand : Json) : Option Json :=
  if isNullTest token then none else some operand

def boundOperand? : Json → Option Json
  | .obj entries =>
      match entries.lookup "process" with
      | some (.bool false) => none
      | _ => (entries.find? (·.1 != "process")).bind fun (token, operand) => comparedWith? token operand
  | .arr (.str token :: operands) => comparedWith? token (operands.headD .null)
  | _ => none

def conditionOperands (conditions : Json) : List Json :=
  conditions.entries.filterMap fun entry => boundOperand? entry.2

def joinConditions (join : Json) : Json := (join.field? "conditions" 3).getD .null

def entryOperands (entry : String × Json) : List Json :=
  match entry.1.toUpper with
  | "CONDITIONS" => conditionOperands entry.2
  | "JOIN" => conditionOperands (joinConditions entry.2)
  | _ => []

def options (document : Json) : List Json := ((document.field? "options" 2).map Json.items).getD []

def operands (document : Json) : List Json :=
  (options document).flatMap fun option => option.entries.flatMap entryOperands

theorem sole_options :
    statementRecord.Sole (statementRecord.fields.take 2)
      { name := "options", read := fun j => (fun options form => { form with options }) <$> readItemsOf .ok j }
      (statementRecord.fields.drop 3) StatementForm.options Json.items where
  fields := rfl
  distinct := by decide
  oneName := rfl
  sets j update form h := by
    obtain ⟨items, read, rfl⟩ := map_eq_ok_iff.1 h
    cases j with
    | arr all => exact Except.ok.inj (read.symm.trans (readItemsOf_arr all))
    | null | bool | num | str | obj => cases read
  keep := by
    simp only [statementRecord, List.take, List.drop, List.cons_append, List.nil_append, List.forall_mem_cons]
    refine ⟨?_, ?_, ?_, ?_, ?_, ?_, ?_, nofun⟩ <;> exact Field.keeps_of_set (fun _ => rfl) fun _ _ => rfl
  unnamed := by decide

theorem sole_conditions :
    joinRecord.Sole (joinRecord.fields.take 3)
      { name := "conditions"
        read := fun j => (fun body form => { form with conditions := body }) <$> readOptional .ok j }
      [] (fun form => form.conditions.getD .null) id where
  fields := rfl
  distinct := by decide
  oneName := rfl
  sets j update form h := by
    obtain ⟨body, read, rfl⟩ := map_eq_ok_iff.1 h
    cases j <;> (obtain rfl := Except.ok.inj read; rfl)
  keep := by
    simp only [joinRecord, List.take, List.append_nil, List.forall_mem_cons]
    refine ⟨?_, ?_, ?_, nofun⟩ <;> exact Field.keeps_of_set (fun _ => rfl) fun _ _ => rfl
  unnamed := by decide

theorem options_of_read {doc : Json} {form : StatementForm} (h : statementRecord.read doc = .ok form) :
    form.options = options doc :=
  sole_options.read h

theorem conditions_of_read {body : Json} {form : JoinForm} (h : joinRecord.read body = .ok form) :
    form.conditions.getD .null = joinConditions body := by
  rw [sole_conditions.read h, Option.map_id]
  rfl

theorem boundOperand?_of_states {body operand : Json} {token : String} {bound : Bool}
    (states : States body token operand bound) :
    boundOperand? body = if bound then comparedWith? token operand else none := by
  cases states with
  | @object entries token operand bound one flagged =>
    have first : entries.find? (·.1 != "process") = some (token, operand) := by
      rw [← List.head?_filter]
      exact congrArg List.head? one
    rw [boundOperand?, first]
    unfold flag at flagged
    cases given : entries.lookup "process" with
    | none =>
      rw [given] at flagged
      obtain rfl := Json.bool.inj flagged
      rfl
    | some process =>
      rw [given] at flagged
      obtain rfl : process = .bool bound := flagged
      cases bound <;> rfl
  | alone token => rfl
  | pair token operand => rfl

theorem boundOperand?_of_read {column : String} {j : Json} {p : Predicate}
    (h : readPredicate column j = .ok p) : p.boundOperand? = (boundOperand? j).map readOperand := by
  obtain ⟨token, operand, states, known, denotes⟩ := readPredicate_eq_ok_iff.1 h
  have test : isNullTest token = p.operator.isNullTest := by rw [isNullTest, known, Option.any_some]
  rw [boundOperand?_of_states states, Predicate.boundOperand?, Predicate.binds, comparedWith?, test,
    ← denotes_iff.1 denotes]
  cases p.bound <;> cases p.operator.isNullTest <;> rfl

theorem conditionOperands_of_read {body : Json} {cs : Conditions} (h : readConditions body = .ok cs) :
    cs.boundOperands = (conditionOperands body).map readOperand := by
  unfold readConditions at h
  split at h
  · obtain rfl := Except.ok.inj h
    rfl
  next entries =>
    have each : cs.map (fun c => c.predicate.boundOperand?) =
        entries.map fun entry => (boundOperand? entry.2).map readOperand := by
      refine map_eq_of_mapM (fun entry c read => ?_) h
      obtain ⟨p, known, same⟩ := bind_eq_ok_iff.1 read
      obtain rfl := Except.ok.inj same
      exact boundOperand?_of_read known
    calc cs.boundOperands
      _ = (cs.map fun c => c.predicate.boundOperand?).filterMap id := by
        rw [List.filterMap_map]
        rfl
      _ = (conditionOperands (.obj entries)).map readOperand := by
        rw [each, List.filterMap_map, conditionOperands, List.map_filterMap]
        rfl
  · cases h

def clauseOperands (clauses : List Clause) : List Operand :=
  Conditions.boundOperands (clauses.flatMap Clause.tested)

theorem clauseOperands_singleton (c : Clause) : clauseOperands [c] = c.tested.boundOperands := by
  rw [clauseOperands, List.flatMap_singleton]

theorem clauseOperands_flatten (parts : List (List Clause)) :
    clauseOperands parts.flatten = parts.flatMap clauseOperands := by
  induction parts with
  | nil => rfl
  | cons part rest ih =>
    rw [List.flatMap_cons, ← ih]
    simp [clauseOperands, Conditions.boundOperands]

theorem joinOperands_of_read {body : Json} {j : Join} (h : readJoin body = .ok j) :
    j.on.boundOperands = (conditionOperands (joinConditions body)).map readOperand := by
  obtain ⟨form, read, h⟩ := bind_eq_ok_iff.1 h
  have given := conditions_of_read (mapError_eq_ok_iff.1 read)
  rw [← given]
  dsimp only at h
  split at h
  next absent =>
    obtain ⟨on, none, same⟩ := bind_eq_ok_iff.1 h
    obtain rfl := Except.ok.inj same
    obtain rfl := Except.ok.inj none
    rw [absent]
    rfl
  next conditions there =>
    obtain ⟨on, read, same⟩ := bind_eq_ok_iff.1 h
    obtain rfl := Except.ok.inj same
    rw [there]
    exact conditionOperands_of_read read

theorem entryOperands_of_read {entry : String × Json} {clauses : List Clause}
    (h : (readEntry entry).outcome = .ok clauses) :
    clauseOperands clauses = (entryOperands entry).map readOperand := by
  unfold readEntry at h
  split at h
  next conditions =>
    rw [Traced.outcome_bind] at h
    obtain ⟨cs, read, same⟩ := bind_eq_ok_iff.1 h
    obtain rfl := Except.ok.inj same
    rw [clauseOperands_singleton, entryOperands, conditions]
    exact conditionOperands_of_read read
  next join =>
    rw [Traced.outcome_bind] at h
    obtain ⟨j, read, same⟩ := bind_eq_ok_iff.1 h
    obtain rfl := Except.ok.inj same
    rw [clauseOperands_singleton, entryOperands, join]
    exact joinOperands_of_read read
  next union =>
    rw [Traced.outcome_bind] at h
    obtain ⟨u, -, same⟩ := bind_eq_ok_iff.1 h
    obtain rfl := Except.ok.inj same
    rw [clauseOperands_singleton, entryOperands, union]
    rfl
  next other notConditions notJoin notUnion =>
    obtain rfl := Except.ok.inj h
    unfold entryOperands
    split
    next conditions => exact absurd conditions notConditions
    next join => exact absurd join notJoin
    next => rfl

theorem flatten_of_mapM {α : Type} {read : α → Traced (List Clause)} {items : List α} {clauses : List Clause}
    {stated : α → List Json}
    (each : ∀ a part, (read a).outcome = .ok part → clauseOperands part = (stated a).map readOperand)
    (h : (List.flatten <$> items.mapM read).outcome = .ok clauses) :
    clauseOperands clauses = (items.flatMap stated).map readOperand := by
  rw [Traced.outcome_map, Traced.outcome_mapM] at h
  obtain ⟨parts, read, rfl⟩ := map_eq_ok_iff.1 h
  rw [clauseOperands_flatten, List.flatMap_def, map_eq_of_mapM each read, ← List.flatMap_def, List.map_flatMap]

theorem optionOperands_of_read {option : Json} {clauses : List Clause}
    (h : (readOption option).outcome = .ok clauses) :
    clauseOperands clauses = (option.entries.flatMap entryOperands).map readOperand := by
  cases option with
  | obj entries => exact flatten_of_mapM (fun _ _ => entryOperands_of_read) h
  | null | bool | num | str | arr => cases h

theorem operands_of_read {doc : Json} {form : StatementForm} {q : Query}
    (read : statementRecord.read doc = .ok form) (h : (readQuery form).outcome = .ok q) :
    q.binding.map Predicate.operand = (operands doc).map readOperand := by
  rw [readQuery, Traced.outcome_bind] at h
  obtain ⟨clauses, options, h⟩ := bind_eq_ok_iff.1 h
  rw [options_of_read read] at options
  rw [Traced.outcome_bind] at h
  obtain ⟨orderBy, -, same⟩ := bind_eq_ok_iff.1 h
  obtain rfl := Except.ok.inj same
  rw [Query.binding, Conditions.operands_binding]
  exact flatten_of_mapM (fun _ _ => optionOperands_of_read) options

end Document

end BoundSelect
