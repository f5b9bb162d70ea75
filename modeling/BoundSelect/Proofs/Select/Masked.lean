import BoundSelect.Proofs.Outcome
import BoundSelect.Proofs.Select.Slots

set_option autoImplicit false

namespace BoundSelect

open Outcome

def Operand.masked : Operand → Operand
  | none => none
  | value _ => value .null
  | values vs => values (vs.map fun _ => .null)

def Predicate.masked (p : Predicate) : Predicate :=
  if p.bound then { p with operand := p.operand.masked } else p

def Condition.masked (c : Condition) : Condition := { c with predicate := c.predicate.masked }

def Conditions.masked (cs : Conditions) : Conditions := cs.map Condition.masked

def Clause.masked : Clause → Clause
  | conditions cs => conditions cs.masked
  | join j => join { j with on := j.on.masked }
  | union u => union u

def Query.masked (q : Query) : Query := { q with clauses := q.clauses.map Clause.masked }

def RecursiveQuery.masked (q : RecursiveQuery) : RecursiveQuery := { q with body := q.body.masked }

def Slot.masked (s : Slot) : Slot := { s with value := .null }

def Term.masked : Term → Term
  | none => none
  | literal v => literal v
  | literals vs => literals vs
  | slot s => slot s.masked
  | slots ss => slots (ss.map Slot.masked)
  | range low high => range low.masked high.masked

def Test.masked (t : Test) : Test := { t with term := t.term.masked }

def JoinedSource.masked (j : JoinedSource) : JoinedSource := { j with on := j.on.map Test.masked }

def Segment.masked (s : Segment) : Segment :=
  { s with joins := s.joins.map JoinedSource.masked, filters := s.filters.map Test.masked }

def Chain.masked (c : Chain) : Chain where
  closed := c.closed.map fun (segment, kind) => (segment.masked, kind)
  last := c.last.masked

def Select.masked (s : Select) : Select := { s with chain := s.chain.masked }

def Draft.masked (d : Draft) : Draft := { d with chain := d.chain.masked }

theorem Slot.ofValues_masked (tag : Nat) (vs : List Value) :
    ofValues tag (vs.map fun _ => .null) = (ofValues tag vs).map masked := by
  simp only [ofValues, List.zipIdx_map, List.map_map]
  rfl

theorem Operand.shape_masked (o : Operand) : o.masked.shape = o.shape := by
  cases o <;> simp [masked, shape]

namespace Predicate

theorem boundTerm_masked (o : Operator) (operand : Operand) (tag : Nat) :
    boundTerm o operand.masked tag = Term.masked <$> boundTerm o operand tag := by
  have shape := operand.shape_masked
  cases operand with
  | none => cases o <;> rfl
  | value v => cases o <;> rfl
  | values vs =>
    cases o with
    | isNull | isNotNull => rfl
    | isIn | notIn =>
      cases vs with
      | nil => rfl
      | cons v more =>
        exact congrArg (fun ss => Except.ok (Term.slots ss)) (Slot.ofValues_masked tag (v :: more))
    | between =>
      rcases vs with _ | ⟨low, _ | ⟨high, _ | ⟨third, more⟩⟩⟩
      · rfl
      · rfl
      · rfl
      · exact congrArg (fun shape => Except.error (Misfit.notTwoValues shape)) shape
    | equal | notEqual | greater | greaterOrEqual | less | lessOrEqual =>
      exact congrArg (fun shape => Except.error (Misfit.notOneValue shape)) shape

theorem binds_masked (p : Predicate) : p.masked.binds = p.binds := by
  unfold masked
  split <;> rfl

theorem operator_masked (p : Predicate) : p.masked.operator = p.operator := by
  unfold masked
  split <;> rfl

theorem term_masked (p : Predicate) (tag : Nat) : p.masked.term tag = Term.masked <$> p.term tag := by
  by_cases bound : p.bound
  · simp only [masked, term, if_pos bound, boundTerm_masked]
    cases boundTerm p.operator p.operand tag <;> rfl
  · simp only [masked, term, if_neg bound]
    cases p.operand <;> rfl

end Predicate

theorem Condition.resolve_masked (owner : Name) (tag : Nat) (c : Condition) :
    c.masked.resolve owner tag = Test.masked <$> c.resolve owner tag := by
  simp only [resolve, masked, Predicate.operator_masked, Predicate.term_masked, map_bind,
    bind_map_left, map_pure, Test.masked]

namespace Conditions

theorem bindCount_masked (cs : Conditions) : cs.masked.bindCount = cs.bindCount := by
  simp [bindCount, masked, List.countP_map, Function.comp_def, Condition.masked,
    Predicate.binds_masked]

theorem number_masked (tag : Nat) (cs : Conditions) :
    cs.masked.number tag = (cs.number tag).map fun (tag, c) => (tag, c.masked) := by
  induction cs generalizing tag with
  | nil => rfl
  | cons c rest ih =>
    have head : c.masked.predicate.binds = c.predicate.binds := c.predicate.binds_masked
    rw [masked, List.map_cons, number, number, head, List.map_cons, ← ih]
    rfl

theorem resolve_masked (owner : Name) (tag : Nat) (cs : Conditions) :
    cs.masked.resolve owner tag = List.map Test.masked <$> cs.resolve owner tag := by
  rw [resolve, number_masked]
  exact mapM_map_of_comm (fun x => Condition.resolve_masked owner x.1 x.2) _

end Conditions

theorem Clause.tableAlias_masked (c : Clause) : c.masked.tableAlias? = c.tableAlias? := by
  cases c <;> rfl

theorem Chain.main_masked (c : Chain) : c.masked.main = c.main.masked := by
  rcases c with ⟨_ | ⟨first, rest⟩, last⟩ <;> rfl

namespace Draft

theorem start_masked (q : Query) : start q.masked = masked <$> start q := by
  have aliases : q.masked.clauses.filterMap Clause.tableAlias? =
      q.clauses.filterMap Clause.tableAlias? := by
    simp only [Query.masked, List.filterMap_map, Function.comp_def, Clause.tableAlias_masked]
  simp only [start, aliases, map_bind, map_pure]
  rfl

theorem addConditions_masked (d : Draft) (cs : Conditions) :
    d.masked.addConditions cs.masked = masked <$> d.addConditions cs := by
  simp only [addConditions, Conditions.resolve_masked, Conditions.bindCount_masked, map_bind,
    bind_map_left, map_pure]
  refine bind_congr fun tests => congrArg pure ?_
  simp [masked, Chain.masked, Segment.masked]

theorem addJoin_masked (settings : Settings) (d : Draft) (j : Join) :
    d.masked.addJoin settings { j with on := j.on.masked } = masked <$> d.addJoin settings j := by
  simp only [addJoin, Conditions.resolve_masked, Conditions.bindCount_masked, map_bind, Traced.lift_map,
    bind_map_left, map_pure]
  refine bind_congr fun table => bind_congr fun named => bind_congr fun side =>
    bind_congr fun on => congrArg pure ?_
  simp [masked, Chain.masked, Segment.masked, JoinedSource.masked]

theorem addUnion_masked (d : Draft) (u : Union) : d.masked.addUnion u = masked <$> d.addUnion u := by
  simp only [addUnion, map_bind, map_pure]
  refine bind_congr fun table => bind_congr fun named => bind_congr fun qualifier =>
    bind_congr fun columns => congrArg pure ?_
  simp [masked, Chain.masked, Segment.masked, Chain.extend]

theorem add_masked (settings : Settings) (d : Draft) (c : Clause) :
    d.masked.add settings c.masked = masked <$> d.add settings c := by
  cases c with
  | conditions cs => exact (congrArg liftM (d.addConditions_masked cs)).trans (Traced.lift_map _ _)
  | join j => exact d.addJoin_masked settings j
  | union u => exact (congrArg liftM (d.addUnion_masked u)).trans (Traced.lift_map _ _)

end Draft

theorem Query.draft_masked (q : Query) : q.masked.draft = Draft.masked <$> q.draft := by
  simp only [draft, Draft.start_masked, Traced.lift_map, map_bind, bind_map_left]
  exact bind_congr fun start => foldlM_map_of_comm (Draft.add_masked q.settings) q.clauses start

theorem Query.select_masked (q : Query) : q.masked.select = Select.masked <$> q.select := by
  simp only [select, draft_masked, map_bind, bind_map_left, map_pure]
  refine bind_congr fun d => ?_
  have main : d.masked.chain.main.source = d.chain.main.source := by
    rw [Draft.masked, Chain.main_masked]
    rfl
  rw [main]
  rfl

end BoundSelect
