import BoundSelect.Document.Query
import BoundSelect.Proofs.Document.Contents
import BoundSelect.Proofs.Text.Keyword

set_option autoImplicit false

namespace BoundSelect

theorem Direction.parse_of_blank {direction : String} (blank : Text.isAllBlank direction) :
    parse direction = .ok ascending := by
  rw [parse, Text.keyword_of_blank blank]
  rfl

namespace Document

open Outcome

variable {α β γ σ τ : Type}

namespace Field

variable {f g : Field α} {set : β → α → α} {set' : γ → α → α} {read : Json → Except Mismatch β}
  {read' : Json → Except Mismatch γ} {sense : α → σ}

theorem commute_of_set (reads : ∀ j, f.read j = set <$> read j) (reads' : ∀ j, g.read j = set' <$> read' j)
    (apart : ∀ b c a, set b (set' c a) = set' c (set b a)) : f.Commute g := by
  intro j k update other a h h'
  obtain ⟨b, -, rfl⟩ := map_eq_ok_iff.1 ((reads j).symm.trans h)
  obtain ⟨c, -, rfl⟩ := map_eq_ok_iff.1 ((reads' k).symm.trans h')
  exact apart b c a

theorem respects_of_set (reads : ∀ j, f.read j = set <$> read j)
    (keeps : ∀ b a a', sense a = sense a' → sense (set b a) = sense (set b a')) : f.Respects sense := by
  intro j update a a' h
  obtain ⟨b, -, rfl⟩ := map_eq_ok_iff.1 ((reads j).symm.trans h)
  exact keeps b a a'

theorem put_congr {j j' : Json} (part : β → τ) (reads : ∀ j, f.read j = set <$> read j)
    (same : (read j).toOption.map part = (read j').toOption.map part)
    (through : ∀ b c a, part b = part c → sense (set b a) = sense (set c a)) (a : α) :
    (f.put j a).map sense = (f.put j' a).map sense := by
  have spelled (j : Json) : (f.put j a).map sense = (read j).toOption.map fun b => sense (set b a) := by
    rw [put, reads, toOption_map, Option.map_map, Option.map_map]
    rfl
  rw [spelled, spelled]
  cases hj : (read j).toOption <;> cases hj' : (read j').toOption
  · rfl
  · simp [hj, hj'] at same
  · simp [hj, hj'] at same
  · rw [hj, hj'] at same
    exact congrArg some (through _ _ a (Option.some.inj same))

end Field

theorem unlessBlank_of_blank {s : String} (blank : Text.isAllBlank s) : unlessBlank (some s) = none := by
  simp [unlessBlank, blank]

def OrderByForm.sense (form : OrderByForm) : String × Option Direction :=
  (form.column, (Direction.parse form.direction).toOption)

def readOn (conditions : Option Json) : Except Fault Conditions :=
  match conditions with
  | none => .ok []
  | some conditions => readConditions conditions

def JoinForm.sense (form : JoinForm) : String × Option String × Option String × Option Conditions :=
  (form.table.getD "", unlessBlank form.tableAlias, unlessBlank form.side, (readOn form.conditions).toOption)

def readKind (kind : Option String) : Except Fault (Option UnionKind) :=
  match unlessBlank kind with
  | none => .ok none
  | some kind => UnionKind.parse kind

def UnionForm.sense (form : UnionForm) :
    Option (Option UnionKind) × String × Option String × Option (List String) × Option String :=
  ((readKind form.kind).toOption, form.table.getD "", unlessBlank form.tableAlias, form.columns,
    unlessBlank form.columnsAlias)

structure StatementForm.Sense where
  table : String
  columns : List String
  clauses? : Option (List Clause)
  orderBy : Option (String × Option Direction)
  limit : Option Limit
  recursionName : String
  recursionOrderBy : Option (String × Option Direction)
  recursionLimit : Option Limit

def StatementForm.sense (form : StatementForm) : Sense where
  table := form.table.getD ""
  columns := form.columns.getD []
  clauses? := (readOptions form.options).outcome.toOption
  orderBy := form.orderBy.map OrderByForm.sense
  limit := form.limit
  recursionName := form.recursionName.getD ""
  recursionOrderBy := form.recursionOrderBy.map OrderByForm.sense
  recursionLimit := form.recursionLimit

theorem orderByRecord_lawful : orderByRecord.Lawful OrderByForm.sense where
  distinct := by decide
  commute := List.pairwise_pair.2 (Field.commute_of_set (fun _ => rfl) (fun _ => rfl) fun _ _ _ => rfl)
  respects := by
    refine List.forall_mem_cons.2 ⟨?_, List.forall_mem_singleton.2 ?_⟩
    all_goals
      refine Field.respects_of_set (fun _ => rfl) fun b a a' same => ?_
      simp only [OrderByForm.sense, Prod.mk.injEq] at same ⊢
      simp [same]

theorem limitRecord_lawful : limitRecord.Lawful (id : Limit → Limit) where
  distinct := by decide
  commute := List.pairwise_pair.2 (Field.commute_of_set (fun _ => rfl) (fun _ => rfl) fun _ _ _ => rfl)
  respects _ _ _ update _ _ _ same := congrArg update same

theorem joinRecord_lawful : joinRecord.Lawful JoinForm.sense where
  distinct := by decide
  commute := by
    simp only [joinRecord, List.pairwise_cons, List.forall_mem_cons, List.not_mem_nil, false_imp_iff, implies_true,
      List.Pairwise.nil, and_true]
    and_intros <;> exact Field.commute_of_set (fun _ => rfl) (fun _ => rfl) fun _ _ _ => rfl
  respects := by
    simp only [joinRecord, List.forall_mem_cons, List.not_mem_nil, false_imp_iff, implies_true, and_true]
    and_intros <;> refine Field.respects_of_set (fun _ => rfl) fun b a a' same => ?_
    all_goals
      simp only [JoinForm.sense, Prod.mk.injEq] at same ⊢
      simp [same]

theorem unionRecord_lawful : unionRecord.Lawful UnionForm.sense where
  distinct := by decide
  commute := by
    simp only [unionRecord, List.pairwise_cons, List.forall_mem_cons, List.not_mem_nil, false_imp_iff, implies_true,
      List.Pairwise.nil, and_true]
    and_intros <;> exact Field.commute_of_set (fun _ => rfl) (fun _ => rfl) fun _ _ _ => rfl
  respects := by
    simp only [unionRecord, List.forall_mem_cons, List.not_mem_nil, false_imp_iff, implies_true, and_true]
    and_intros <;> refine Field.respects_of_set (fun _ => rfl) fun b a a' same => ?_
    all_goals
      simp only [UnionForm.sense, Prod.mk.injEq] at same ⊢
      simp [same]

theorem statementRecord_lawful : statementRecord.Lawful StatementForm.sense where
  distinct := by decide
  commute := by
    simp only [statementRecord, List.pairwise_cons, List.forall_mem_cons, List.not_mem_nil, false_imp_iff, implies_true,
      List.Pairwise.nil, and_true]
    and_intros <;> exact Field.commute_of_set (fun _ => rfl) (fun _ => rfl) fun _ _ _ => rfl
  respects := by
    simp only [statementRecord, List.forall_mem_cons, List.not_mem_nil, false_imp_iff, implies_true, and_true]
    and_intros <;> refine Field.respects_of_set (fun _ => rfl) fun b a a' same => ?_
    all_goals
      simp only [StatementForm.sense, StatementForm.Sense.mk.injEq] at same ⊢
      simp [same]

theorem readOrderBy_some (form : OrderByForm) :
    readOrderBy (some form) =
      (fun direction => some { column := form.column, direction }) <$> Direction.parse form.direction := by
  rw [readOrderBy]
  cases Direction.parse form.direction <;> rfl

theorem readOrderBy_congr {form form' : Option OrderByForm}
    (same : form.map OrderByForm.sense = form'.map OrderByForm.sense) :
    (readOrderBy form).toOption = (readOrderBy form').toOption := by
  cases form <;> cases form'
  · rfl
  · cases same
  · cases same
  · obtain ⟨column, direction⟩ := Prod.mk.inj (Option.some.inj same)
    rw [readOrderBy_some, readOrderBy_some, toOption_map, toOption_map, column, direction]

theorem readJoin_eq (body : Json) :
    readJoin body = do
      let form ← joinRecord.read body
      let on ← readOn form.conditions
      return {
        table := form.table.getD ""
        tableAlias := unlessBlank form.tableAlias
        side := (unlessBlank form.side).map SideChoice.ofName
        on } := by
  rw [readJoin]
  refine bind_congr fun form => ?_
  cases form.conditions <;> rfl

theorem readJoin_congr {body body' : Json}
    (same : (joinRecord.read body).toOption.map JoinForm.sense = (joinRecord.read body').toOption.map JoinForm.sense) :
    (readJoin body).toOption = (readJoin body').toOption := by
  rw [readJoin_eq, readJoin_eq]
  refine toOption_bind_congr JoinForm.sense ?_ fun form form' same => ?_
  · rw [toOption_lift, toOption_lift, same]
  · simp only [JoinForm.sense, Prod.mk.injEq] at same
    obtain ⟨table, tableAlias, side, on⟩ := same
    simp only [toOption_bind, table, tableAlias, side, on]

theorem readUnion_eq {body : Json} (notNull : body ≠ .null) (notEmpty : body ≠ .obj []) :
    readUnion body = do
      let form ← unionRecord.read body
      let kind ← readKind form.kind
      return {
        kind
        table := form.table.getD ""
        tableAlias := unlessBlank form.tableAlias
        columns := form.columns
        columnsAlias := unlessBlank form.columnsAlias } := by
  have form : readUnionForm body = unionRecord.read body := by
    unfold readUnionForm
    split
    · exact absurd rfl notNull
    · exact absurd rfl notEmpty
    · rfl
  rw [readUnion, form]
  refine bind_congr fun form => ?_
  rw [readKind]
  cases unlessBlank form.kind <;> rfl

theorem readUnion_congr {body body' : Json}
    (same : (unionRecord.read body).toOption.map UnionForm.sense =
      (unionRecord.read body').toOption.map UnionForm.sense)
    (notNull : body ≠ .null) (notNull' : body' ≠ .null) (notEmpty : body ≠ .obj []) (notEmpty' : body' ≠ .obj []) :
    (readUnion body).toOption = (readUnion body').toOption := by
  rw [readUnion_eq notNull notEmpty, readUnion_eq notNull' notEmpty']
  refine toOption_bind_congr UnionForm.sense ?_ fun form form' same => ?_
  · rw [toOption_lift, toOption_lift, same]
  · simp only [UnionForm.sense, Prod.mk.injEq] at same
    obtain ⟨kind, table, tableAlias, columns, columnsAlias⟩ := same
    simp only [toOption_bind, kind, table, tableAlias, columns, columnsAlias]

theorem readQuery_congr {form form' : StatementForm} (same : form.sense = form'.sense) :
    (readQuery form).outcome.toOption = (readQuery form').outcome.toOption := by
  simp only [StatementForm.sense, StatementForm.Sense.mk.injEq] at same
  obtain ⟨table, columns, clauses, orderBy, limit, -⟩ := same
  simp only [readQuery, Traced.outcome_bind, Traced.outcome_lift, Traced.outcome_pure, toOption_bind, table, columns,
    clauses, limit, readOrderBy_congr orderBy]

end Document

open Document Outcome

variable {document document' : Json}

theorem Query.ofJson_congr
    (same : (statementRecord.read document).toOption.map StatementForm.sense =
      (statementRecord.read document').toOption.map StatementForm.sense) :
    (Query.ofJson document).outcome.toOption = (Query.ofJson document').outcome.toOption := by
  rw [Query.ofJson, Query.ofJson, Traced.outcome_bind, Traced.outcome_bind]
  refine toOption_bind_congr StatementForm.sense ?_ fun form form' same => readQuery_congr same
  rw [Traced.outcome_lift, Traced.outcome_lift, toOption_lift, toOption_lift, same]

theorem RecursiveQuery.ofJson_congr
    (same : (statementRecord.read document).toOption.map StatementForm.sense =
      (statementRecord.read document').toOption.map StatementForm.sense) :
    (RecursiveQuery.ofJson document).outcome.toOption = (RecursiveQuery.ofJson document').outcome.toOption := by
  rw [RecursiveQuery.ofJson, RecursiveQuery.ofJson, Traced.outcome_bind, Traced.outcome_bind]
  refine toOption_bind_congr StatementForm.sense ?_ fun form form' same => ?_
  · rw [Traced.outcome_lift, Traced.outcome_lift, toOption_lift, toOption_lift, same]
  · have body := readQuery_congr same
    simp only [StatementForm.sense, StatementForm.Sense.mk.injEq] at same
    obtain ⟨-, -, -, -, -, name, orderBy, limit⟩ := same
    simp only [Traced.outcome_bind, Traced.outcome_lift, Traced.outcome_pure, toOption_bind, body, name,
      readOrderBy_congr orderBy, limit]

end BoundSelect
