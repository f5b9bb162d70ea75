import BoundSelect.Proofs.FirstFault
import BoundSelect.Proofs.Select.Steps

set_option autoImplicit false

namespace BoundSelect

open Outcome

namespace Predicate

inductive Fits : Predicate → Prop
  | unbound {o : Operator} {operand : Operand} : Fits ⟨o, operand, false⟩
  | nullTest {o : Operator} {operand : Operand} {bound : Bool} (test : o.isNullTest) :
      Fits ⟨o, operand, bound⟩
  | one {o : Operator} {v : Value} {bound : Bool} (compares : o.compares) : Fits ⟨o, .value v, bound⟩
  | some {o : Operator} {vs : List Value} {bound : Bool} (listed : o = .isIn ∨ o = .notIn)
      (filled : vs ≠ []) : Fits ⟨o, .values vs, bound⟩
  | two {low high : Value} {bound : Bool} : Fits ⟨.between, .values [low, high], bound⟩

def misfit (p : Predicate) : Misfit :=
  match p.operator, p.operand with
  | .isIn, .values _ | .notIn, .values _ => .noValues
  | .isIn, other | .notIn, other => .notValues other.shape
  | .between, other => .notTwoValues other.shape
  | _, other => .notOneValue other.shape

theorem fits_of_boundTerm {o : Operator} {operand : Operand} {tag : Nat} {t : Term}
    (h : boundTerm o operand tag = .ok t) (bound : Bool) : Fits ⟨o, operand, bound⟩ := by
  fun_cases boundTerm o operand tag <;> first
    | exact .nullTest rfl
    | exact .one rfl
    | exact .two
    | exact .some (by simp) (by assumption)
    | simp_all [boundTerm]

theorem eq_misfit_of_boundTerm {o : Operator} {operand : Operand} {tag : Nat} {m : Misfit}
    (h : boundTerm o operand tag = .error m) (bound : Bool) : m = misfit ⟨o, operand, bound⟩ := by
  fun_cases boundTerm o operand tag <;> simp_all [boundTerm, misfit]

theorem boundTerm_of_fits {o : Operator} {operand : Operand} (fits : Fits ⟨o, operand, true⟩)
    (tag : Nat) : ∃ t, boundTerm o operand tag = .ok t := by
  cases fits with
  | nullTest test => cases o <;> simp_all [boundTerm, Operator.isNullTest]
  | one compares => cases o <;> simp_all [boundTerm, Operator.compares]
  | some listed filled => rcases listed with rfl | rfl <;> simp [boundTerm]
  | two => exact ⟨_, rfl⟩

theorem fault?_term_eq_none_iff {p : Predicate} {tag : Nat} : fault? (p.term tag) = none ↔ p.Fits := by
  rw [← exists_ok_iff]
  rcases p with ⟨o, operand, _ | _⟩
  · exact ⟨fun _ => .unbound, fun _ => ⟨_, rfl⟩⟩
  · simp only [term, if_true, mapError_eq_ok_iff]
    exact ⟨fun ⟨_, h⟩ => fits_of_boundTerm h true, fun fits => boundTerm_of_fits fits tag⟩

theorem eq_operand_of_fault?_term {p : Predicate} {tag : Nat} {f : Fault}
    (h : fault? (p.term tag) = some f) : f = .operand p.operator p.misfit := by
  rcases p with ⟨o, operand, _ | _⟩
  · cases h
  · rw [term, if_pos rfl, fault?_mapError] at h
    obtain ⟨m, found, rfl⟩ := Option.map_eq_some_iff.1 h
    rw [eq_misfit_of_boundTerm (eq_error_iff.2 found) true]

theorem fault?_term_eq_some_iff {p : Predicate} {tag : Nat} {f : Fault} :
    fault? (p.term tag) = some f ↔ ¬p.Fits ∧ f = .operand p.operator p.misfit := by
  rw [← @fault?_term_eq_none_iff p tag]
  cases found : fault? (p.term tag) with
  | none => simp
  | some g =>
    obtain rfl := eq_operand_of_fault?_term found
    simp [eq_comm]

theorem fault?_term (p : Predicate) (tag other : Nat) : fault? (p.term tag) = fault? (p.term other) :=
  Option.ext fun _ => fault?_term_eq_some_iff.trans fault?_term_eq_some_iff.symm

end Predicate

inductive Check where
  | given (subject : Subject) (table : String)
  | table (text : String)
  | name (text : String)
  | column (text : String)
  | side (settings : Settings) (choice : Option SideChoice)
  | operand (p : Predicate)

namespace Check

def Passes : Check → Prop
  | .given _ t => Text.isAllBlank t = false
  | .table t => ∃ i, Identifier.parse t = .ok i
  | .name t => ∃ n, Name.parse t = .ok n
  | .column t => ∃ i, Identifier.parseColumn t = .ok i
  | .side settings choice => settings.strictSides → ∀ asked, choice ≠ some (.unrecognized asked)
  | .operand p => p.Fits

inductive Fails : Check → Fault → Prop
  | given {subject : Subject} {t : String} (blank : Text.isAllBlank t) :
      Fails (.given subject t) (.unspecified subject)
  | table {t : String} {flaw : Identifier.Flaw} (read : Identifier.parse t = .error flaw) :
      Fails (.table t) (.identifier flaw)
  | name {t : String} {flaw : Identifier.Flaw} (read : Name.parse t = .error flaw) :
      Fails (.name t) (.identifier flaw)
  | column {t : String} {flaw : Identifier.Flaw} (read : Identifier.parseColumn t = .error flaw) :
      Fails (.column t) (.identifier flaw)
  | side {settings : Settings} {asked : String} (strict : settings.strictSides) :
      Fails (.side settings (some (.unrecognized asked))) (.side asked)
  | operand {p : Predicate} (unfit : ¬p.Fits) : Fails (.operand p) (.operand p.operator p.misfit)

def fault? : Check → Option Fault
  | .given subject t => if Text.isAllBlank t then some (.unspecified subject) else none
  | .table t => (Outcome.fault? (Identifier.parse t)).map .identifier
  | .name t => (Outcome.fault? (Name.parse t)).map .identifier
  | .column t => (Outcome.fault? (Identifier.parseColumn t)).map .identifier
  | .side settings choice =>
      match choice with
      | some (.unrecognized asked) => if settings.strictSides then some (.side asked) else none
      | _ => none
  | .operand p => Outcome.fault? (p.term 0)

theorem fault?_eq_none_iff {c : Check} : c.fault? = none ↔ c.Passes := by
  cases c with
  | given subject t => simp [fault?, Passes]
  | table t | name t | column t => rw [fault?, Option.map_eq_none_iff, ← exists_ok_iff, Passes]
  | side settings choice =>
    simp only [fault?, Passes]
    split <;> simp_all
  | operand p => exact Predicate.fault?_term_eq_none_iff

theorem fault?_eq_some_iff {c : Check} {f : Fault} : c.fault? = some f ↔ c.Fails f := by
  constructor
  · intro found
    cases c with
    | given subject t =>
      simp only [fault?, Option.ite_none_right_eq_some, Option.some.injEq] at found
      obtain ⟨blank, rfl⟩ := found
      exact .given blank
    | table t | name t | column t =>
      obtain ⟨flaw, read, rfl⟩ := Option.map_eq_some_iff.1 found
      constructor
      exact eq_error_iff.2 read
    | side settings choice =>
      simp only [fault?] at found
      split at found
      · simp only [Option.ite_none_right_eq_some, Option.some.injEq] at found
        obtain ⟨strict, rfl⟩ := found
        exact .side strict
      · cases found
    | operand p =>
      obtain ⟨unfit, rfl⟩ := Predicate.fault?_term_eq_some_iff.1 found
      exact .operand unfit
  · intro fails
    cases fails with
    | given blank => simp [fault?, blank]
    | table read | name read | column read => rw [fault?, eq_error_iff.1 read, Option.map_some]
    | side strict => simp [fault?, strict]
    | operand unfit => exact Predicate.fault?_term_eq_some_iff.2 ⟨unfit, rfl⟩

end Check

def Condition.checks (c : Condition) : List Check := [.column c.column, .operand c.predicate]

def Conditions.checks (cs : Conditions) : List Check := cs.flatMap Condition.checks

namespace Clause

def checks (settings : Settings) : Clause → List Check
  | .conditions cs => cs.checks
  | .join j =>
      [.given .joinTable j.table, .table j.table] ++ j.tableAlias.toList.map .name ++
        [.side settings j.side] ++ j.on.checks
  | .union u =>
      [.given .unionTable u.table, .table u.table] ++ u.tableAlias.toList.map .name ++
        u.columnsAlias.toList.map .name ++ (u.columns.getD []).map .column

end Clause

namespace Query

def checks (q : Query) : List Check :=
  [.given .table q.table, .table q.table] ++ q.tableAlias.toList.map .name ++ q.columns.map .column ++
    q.clauses.flatMap (Clause.checks q.settings) ++
    q.orderBy.toList.map fun o => .column o.column

end Query

abbrev Checked {α : Type} (cs : List Check) (x : Except Fault α) : Prop := FirstFault Check.fault? cs x

theorem checked_lift {α : Type} {c : Check} {x : Except Identifier.Flaw α}
    (h : c.fault? = (fault? x).map .identifier) : Checked [c] (liftM x : Except Fault α) :=
  .one ((fault?_mapError _ x).trans h.symm)

theorem checked_parseColumn (column : String) :
    Checked [.column column] (liftM (Identifier.parseColumn column) : Except Fault _) :=
  checked_lift rfl

theorem AliasPool.checked_choose (pool : AliasPool) (explicit : Option String) (table : Identifier) :
    Checked (explicit.toList.map .name) (liftM (pool.choose explicit table) : Except Fault _) := by
  cases explicit with
  | none => exact .pure _
  | some text =>
    refine checked_lift ?_
    rw [choose, bind_pure_comp, fault?_map]
    rfl

theorem Condition.checked_resolve (owner : Name) (tag : Nat) (c : Condition) :
    Checked c.checks (c.resolve owner tag) := by
  have operand : Checked [.operand c.predicate] (c.predicate.term tag) :=
    .one (c.predicate.fault?_term tag 0)
  exact (checked_parseColumn c.column).bind fun column => operand.bind_pure _

theorem Conditions.checked_resolve (owner : Name) (tag : Nat) (cs : Conditions) :
    Checked cs.checks (cs.resolve owner tag) := by
  have each : ∀ item : Nat × Condition, Checked item.2.checks (item.2.resolve owner item.1) :=
    fun item => item.2.checked_resolve owner item.1
  have all := FirstFault.mapM each (number tag cs)
  rwa [← List.flatMap_map, map_snd_number] at all

namespace Draft

theorem checked_parseTable (subject : Subject) (table : String) :
    Checked [.given subject table, .table table] (parseTable subject table) := by
  unfold parseTable
  split
  case isTrue blank => exact .error (if_pos blank)
  case isFalse filled => exact .cons (if_neg filled) (checked_lift rfl)

theorem checked_parseColumns (columns : List String) :
    Checked (columns.map .column) (parseColumns columns) := by
  have all := FirstFault.mapM checked_parseColumn columns
  rwa [← List.map_eq_flatMap] at all

theorem checked_start (q : Query) :
    Checked ([.given .table q.table, .table q.table] ++ q.tableAlias.toList.map .name ++
      q.columns.map .column) (start q) := by
  rw [List.append_assoc]
  refine (checked_parseTable .table q.table).bind fun table => ?_
  refine (AliasPool.checked_choose _ q.tableAlias table).bind fun chosen => ?_
  exact (checked_parseColumns q.columns).bind_pure _

theorem checked_resolveSide (settings : Settings) (j : Join) :
    Checked [.side settings j.side] (resolveSide settings j).outcome := by
  refine .one ?_
  rcases j with ⟨table, tableAlias, _ | _ | asked, on⟩
  case none | some.known => rfl
  case some.unrecognized =>
    rw [resolveSide, Check.fault?]
    cases settings.strictSides <;> rfl

theorem checked_addJoin (settings : Settings) (d : Draft) (j : Join) :
    Checked ((Clause.join j).checks settings) (d.addJoin settings j).outcome := by
  simp only [addJoin, Traced.outcome_bind, Traced.outcome_lift, Traced.outcome_lift_flaw,
      Traced.outcome_pure]
  rw [Clause.checks, List.append_assoc, List.append_assoc]
  refine (checked_parseTable .joinTable j.table).bind fun table => ?_
  refine (AliasPool.checked_choose d.pool j.tableAlias table).bind fun chosen => ?_
  refine (checked_resolveSide settings j).bind fun side => ?_
  exact (j.on.checked_resolve _ _).bind_pure _

theorem checked_unionQualifier (u : Union) (name : Name) :
    Checked (u.columnsAlias.toList.map .name) (unionQualifier u name) := by
  unfold unionQualifier
  cases u.columnsAlias with
  | none => exact .pure _
  | some text => exact checked_lift rfl

theorem checked_unionColumns (u : Union) (left : List Identifier) :
    Checked ((u.columns.getD []).map .column) (unionColumns u left) := by
  unfold unionColumns
  cases u.columns with
  -- Columns taken over from the left were read there, and are not read again.
  | none => exact .pure _
  | some columns => exact checked_parseColumns columns

theorem checked_addUnion (settings : Settings) (d : Draft) (u : Union) :
    Checked ((Clause.union u).checks settings) (d.addUnion u) := by
  rw [Clause.checks, List.append_assoc, List.append_assoc]
  refine (checked_parseTable .unionTable u.table).bind fun table => ?_
  refine (AliasPool.checked_choose d.pool u.tableAlias table).bind fun chosen => ?_
  refine (checked_unionQualifier u _).bind fun qualifier => ?_
  exact (checked_unionColumns u _).bind_pure _

theorem checked_add (settings : Settings) (d : Draft) (c : Clause) :
    Checked (c.checks settings) (d.add settings c).outcome := by
  cases c with
  | conditions cs => exact (cs.checked_resolve d.owner d.nextTag).bind_pure _
  | join j => exact checked_addJoin settings d j
  | union u => exact checked_addUnion settings d u

end Draft

theorem OrderBy.checked_resolveGiven (o : Option OrderBy) (qualify : Identifier → Identifier) :
    Checked (o.toList.map fun o => .column o.column) (resolveGiven o qualify) := by
  cases o with
  | none => exact .pure _
  | some o => exact ((checked_parseColumn o.column).bind_pure _).map _

namespace Query

theorem checked_select (q : Query) : Checked q.checks q.select.outcome := by
  simp only [select, draft, Traced.outcome_bind, Traced.outcome_lift, Traced.outcome_pure,
    Traced.outcome_foldlM]
  refine .bind (.bind (Draft.checked_start q) fun d => ?_) fun d => ?_
  · exact .foldlM (Draft.checked_add q.settings) q.clauses d
  · exact (OrderBy.checked_resolveGiven q.orderBy _).bind_pure _

theorem checked_build (q : Query) : Checked q.checks q.build.outcome := by
  rw [outcome_build, fragment, Traced.outcome_bind]
  exact q.checked_select.bind_pure _

end Query

end BoundSelect
