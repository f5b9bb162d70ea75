import BoundSelect.Proofs.Reports
import BoundSelect.Statement

set_option autoImplicit false

namespace BoundSelect

open Outcome

def Operator.compares : Operator → Bool
  | .equal | .notEqual | .greater | .greaterOrEqual | .less | .lessOrEqual => true
  | _ => false

inductive Predicate.Bound (tag : Nat) : Operator → Operand → Term → Prop
  | nothing {o : Operator} {operand : Operand} (test : o.isNullTest) : Bound tag o operand .none
  | one {o : Operator} (v : Value) (compares : o.compares) : Bound tag o (.value v) (.slot ⟨tag, 0, v⟩)
  | some {o : Operator} (vs : List Value) (listed : o = .isIn ∨ o = .notIn) :
      Bound tag o (.values vs) (.slots (Slot.ofValues tag vs))
  | two (low high : Value) :
      Bound tag .between (.values [low, high]) (.range ⟨tag, 0, low⟩ ⟨tag, 1, high⟩)

theorem Predicate.bound_of_boundTerm {o : Operator} {operand : Operand} {tag : Nat} {t : Term}
    (h : boundTerm o operand tag = .ok t) : Bound tag o operand t := by
  unfold boundTerm at h
  split at h
  case h_1 | h_2 =>
    obtain rfl := Except.ok.inj h
    exact .nothing rfl
  case h_3 | h_4 =>
    split at h
    · cases h
    · obtain rfl := Except.ok.inj h
      exact .some _ (by simp)
    · cases h
  case h_5 =>
    split at h
    · obtain rfl := Except.ok.inj h
      exact .two _ _
    · cases h
  all_goals
    split at h
    · obtain rfl := Except.ok.inj h
      exact .one _ rfl
    · cases h

theorem Predicate.Bound.eq_none {o : Operator} {operand : Operand} {tag : Nat} {t : Term}
    (bound : Bound tag o operand t) (test : o.isNullTest) : t = .none := by
  cases bound with
  | nothing _ => rfl
  | one v compares =>
    have noTest : o.isNullTest = false := by cases o <;> first | rfl | cases compares
    simp [noTest] at test
  | some vs listed => rcases listed with rfl | rfl <;> cases test
  | two low high => cases test

theorem Conditions.map_snd_number (tag : Nat) (cs : Conditions) : (number tag cs).map Prod.snd = cs := by
  induction cs generalizing tag with
  | nil => rfl
  | cons c rest ih => rw [number, List.map_cons, ih]

inductive Draft.Step (settings : Settings) (d : Draft) : Clause → Draft → Prop
  | conditions {cs : Conditions} {tests : List Test}
      (resolved : cs.resolve d.owner d.nextTag = .ok tests) :
      Step settings d (.conditions cs)
        { d with
          chain.last.filters := d.chain.last.filters ++ tests
          nextTag := d.nextTag + cs.bindCount }
  | join {j : Join} {table : Identifier} {name : Name} {pool : AliasPool} {side : Option Side}
      {on : List Test}
      (read : Draft.parseTable .joinTable j.table = .ok table)
      (named : d.pool.choose j.tableAlias table = .ok (name, pool))
      (sided : (Draft.resolveSide settings j).outcome = .ok side)
      (resolved : j.on.resolve name d.nextTag = .ok on) :
      Step settings d (.join j)
        { d with
          chain.last.joins := d.chain.last.joins ++ [{ side, source := { table, name }, on }]
          owner := name
          pool
          nextTag := d.nextTag + j.on.bindCount }
  | union {u : Union} {table : Identifier} {name qualifier : Name} {pool : AliasPool}
      {columns : List Identifier}
      (read : Draft.parseTable .unionTable u.table = .ok table)
      (named : d.pool.choose u.tableAlias table = .ok (name, pool))
      (qualified : Draft.unionQualifier u name = .ok qualifier)
      (listed : Draft.unionColumns u d.chain.last.columns = .ok columns) :
      Step settings d (.union u)
        { chain := d.chain.extend u.kind
            { columns := Draft.selected qualifier columns, source := { table, name } }
          owner := name
          pool
          nextTag := d.nextTag }

namespace Draft

theorem addConditions_eq_ok_iff {d e : Draft} {cs : Conditions} :
    d.addConditions cs = .ok e ↔ ∃ tests, cs.resolve d.owner d.nextTag = .ok tests ∧
      { d with
        chain.last.filters := d.chain.last.filters ++ tests
        nextTag := d.nextTag + cs.bindCount } = e := by
  simp only [addConditions, bind_eq_ok_iff, pure_eq_ok_iff]

theorem add_eq_ok_iff {settings : Settings} {d e : Draft} {c : Clause} :
    (d.add settings c).outcome = .ok e ↔ Step settings d c e := by
  cases c with
  | conditions cs =>
    simp only [add, Traced.outcome_lift, addConditions_eq_ok_iff]
    constructor
    · rintro ⟨tests, resolved, rfl⟩
      exact .conditions resolved
    · rintro ⟨resolved⟩
      exact ⟨_, resolved, rfl⟩
  | join j =>
    simp only [add, addJoin, Traced.outcome_bind, Traced.outcome_lift, Traced.outcome_lift_flaw,
      Traced.outcome_pure, bind_eq_ok_iff, lift_eq_ok_iff, Prod.exists, Except.ok.injEq]
    constructor
    · rintro ⟨table, read, name, pool, named, side, sided, on, resolved, rfl⟩
      exact .join read named sided resolved
    · rintro (_ | ⟨read, named, sided, resolved⟩)
      exact ⟨_, read, _, _, named, _, sided, _, resolved, rfl⟩
  | union u =>
    simp only [add, addUnion, Traced.outcome_lift, bind_eq_ok_iff, lift_eq_ok_iff, pure_eq_ok_iff,
      Prod.exists]
    constructor
    · rintro ⟨table, read, name, pool, named, qualifier, qualified, columns, listed, rfl⟩
      exact .union read named qualified listed
    · rintro (_ | _ | ⟨read, named, qualified, listed⟩)
      exact ⟨_, read, _, _, named, _, qualified, _, listed, rfl⟩

theorem parseTable_eq_ok_iff {subject : Subject} {table : String} {i : Identifier} :
    parseTable subject table = .ok i ↔ Text.isAllBlank table = false ∧ Identifier.parse table = .ok i := by
  unfold parseTable
  split
  case isTrue blank => simp [blank]
  case isFalse filled => simp [filled, lift_eq_ok_iff]

theorem start_eq_ok_iff {q : Query} {d : Draft} :
    start q = .ok d ↔ ∃ table name pool columns,
      parseTable .table q.table = .ok table ∧
      (AliasPool.ofAliases (q.clauses.filterMap Clause.tableAlias?)).choose q.tableAlias table =
        .ok (name, pool) ∧
      parseColumns q.columns = .ok columns ∧
      { chain := { last := { columns := selected name columns, source := { table, name } } }
        owner := name
        pool := if q.tableAlias.isSome then pool.reserve name else pool } = d := by
  simp only [start, bind_eq_ok_iff, lift_eq_ok_iff, pure_eq_ok_iff, Prod.exists]
  constructor
  · rintro ⟨table, read, name, pool, named, columns, listed, rfl⟩
    exact ⟨table, name, pool, columns, read, named, listed, rfl⟩
  · rintro ⟨table, name, pool, columns, read, named, listed, rfl⟩
    exact ⟨table, read, name, pool, named, columns, listed, rfl⟩

def Run (settings : Settings) (d : Draft) (clauses : List Clause) (e : Draft) : Prop :=
  clauses.foldlM (fun d c => (d.add settings c).outcome) d = .ok e

theorem run_nil_iff {settings : Settings} {d e : Draft} : Run settings d [] e ↔ d = e := by
  simp [Run, pure_eq_ok_iff]

theorem run_cons_iff {settings : Settings} {d e : Draft} {c : Clause} {rest : List Clause} :
    Run settings d (c :: rest) e ↔ ∃ next, Step settings d c next ∧ Run settings next rest e := by
  simp only [Run, foldlM_cons_eq_ok_iff, add_eq_ok_iff]

theorem run_invariant {settings : Settings} {d e : Draft} {clauses : List Clause}
    {I : Draft → Prop} (keep : ∀ d e, ∀ c ∈ clauses, Step settings d c e → I d → I e)
    (run : Run settings d clauses e) (start : I d) : I e :=
  foldlM_invariant (fun d e c hc step => keep d e c hc (add_eq_ok_iff.1 step)) run start

theorem Step.main {settings : Settings} {d e : Draft} {c : Clause} (step : Step settings d c e) :
    e.chain.main.source = d.chain.main.source ∧ e.chain.main.columns = d.chain.main.columns := by
  cases step with
  | conditions resolved =>
    rcases d with ⟨⟨_ | ⟨first, closed⟩, last⟩, owner, pool, tag⟩ <;> exact ⟨rfl, rfl⟩
  | join read named sided resolved =>
    rcases d with ⟨⟨_ | ⟨first, closed⟩, last⟩, owner, pool, tag⟩ <;> exact ⟨rfl, rfl⟩
  | union read named qualified listed =>
    rw [Chain.main_extend]
    exact ⟨rfl, rfl⟩

theorem Run.main {settings : Settings} {d e : Draft} {clauses : List Clause} (run : Run settings d clauses e) :
    e.chain.main.source = d.chain.main.source ∧ e.chain.main.columns = d.chain.main.columns :=
  run_invariant
    (I := fun e => e.chain.main.source = d.chain.main.source ∧ e.chain.main.columns = d.chain.main.columns)
    (fun _ _ _ _ step same => ⟨step.main.1.trans same.1, step.main.2.trans same.2⟩) run ⟨rfl, rfl⟩

end Draft

theorem Settings.reportStatement_outcome (s : Settings) (kind : StatementKind) (table : String)
    (binds : Binds) (text : String) :
    (s.reportStatement kind table binds text).outcome = .ok () := by
  unfold Settings.reportStatement
  split <;> rfl

theorem OrderBy.resolve_eq_ok_iff {o : OrderBy} {qualify : Identifier → Identifier} {s : Sorting} :
    o.resolve qualify = .ok s ↔ ∃ column, Identifier.parseColumn o.column = .ok column ∧
      { column := qualify column, direction := o.direction } = s := by
  simp only [resolve, bind_eq_ok_iff, lift_eq_ok_iff, pure_eq_ok_iff]

namespace Query

theorem select_eq_ok_iff {q : Query} {s : Select} :
    q.select.outcome = .ok s ↔ ∃ start d sorting, Draft.start q = .ok start ∧
      Draft.Run q.settings start q.clauses d ∧
      OrderBy.resolveGiven q.orderBy (Identifier.qualify d.chain.main.source.name) = .ok sorting ∧
      { chain := d.chain, sorting, limit := q.limit } = s := by
  simp only [select, draft, Traced.outcome_bind, Traced.outcome_lift, Traced.outcome_pure,
    Traced.outcome_foldlM, bind_eq_ok_iff, Except.ok.injEq]
  constructor
  · rintro ⟨d, ⟨start, started, run⟩, sorting, sorted, rfl⟩
    exact ⟨start, d, sorting, started, run, sorted, rfl⟩
  · rintro ⟨start, d, sorting, started, run, sorted, rfl⟩
    exact ⟨d, ⟨start, started, run⟩, sorting, sorted, rfl⟩

theorem fragment_eq_ok_iff {q : Query} {s : Statement} :
    q.fragment.outcome = .ok s ↔
      ∃ select, q.select.outcome = .ok select ∧ { columns := q.columns, select } = s := by
  simp only [fragment, Traced.outcome_bind, Traced.outcome_pure, bind_eq_ok_iff, Except.ok.injEq]

theorem build_eq (q : Query) :
    q.build = q.fragment.thenReport fun s =>
      q.settings.reportStatement .select s.table.text s.binds s.text :=
  rfl

theorem outcome_build (q : Query) : q.build.outcome = q.fragment.outcome :=
  Traced.outcome_thenReport fun _ => q.settings.reportStatement_outcome _ _ _ _

theorem build_eq_ok_iff {q : Query} {s : Statement} :
    q.build.outcome = .ok s ↔ q.fragment.outcome = .ok s := by
  rw [outcome_build]

end Query

namespace RecursiveQuery

def finished (r : RecursiveQuery) : Traced RecursiveStatement := do
  if Text.isAllBlank r.name then Traced.fail (.unspecified .recursionName)
  let name ← (Name.parse r.name : Except Fault Name)
  if r.body.orderBy.isSome || r.body.limit.isSome then Traced.fail .orderedBody
  let base ← r.body.fragment
  let sorting ← OrderBy.resolveGiven r.orderBy id
  return { name, base, sorting, limit := r.limit }

theorem build_eq (r : RecursiveQuery) :
    r.build = r.finished.thenReport fun s =>
      r.body.settings.reportStatement .recursive s.name.text s.binds s.text := by
  unfold build finished Traced.thenReport
  cases Text.isAllBlank r.name <;> cases r.body.orderBy.isSome || r.body.limit.isSome <;>
    simp only [Bool.false_eq_true, if_false, if_true, bind_assoc, pure_bind]

theorem outcome_finished (r : RecursiveQuery) : r.finished.outcome = r.build.outcome := by
  rw [build_eq, Traced.outcome_thenReport fun _ => r.body.settings.reportStatement_outcome _ _ _ _]

theorem build_eq_ok_iff {q : RecursiveQuery} {s : RecursiveStatement} :
    q.build.outcome = .ok s ↔ Text.isAllBlank q.name = false ∧
      (q.body.orderBy.isSome || q.body.limit.isSome) = false ∧
      ∃ name base sorting, Name.parse q.name = .ok name ∧ q.body.fragment.outcome = .ok base ∧
        OrderBy.resolveGiven q.orderBy id = .ok sorting ∧
        { name, base, sorting, limit := q.limit } = s := by
  rw [← outcome_finished, finished]
  cases blank : Text.isAllBlank q.name <;>
    cases ordered : q.body.orderBy.isSome || q.body.limit.isSome <;>
    simp [bind_eq_ok_iff, map_eq_ok_iff, lift_eq_ok_iff]

end RecursiveQuery

end BoundSelect
