import BoundSelect.Proofs.Select.Aliases
import BoundSelect.Proofs.Select.Unions

set_option autoImplicit false

namespace BoundSelect

open Outcome

def Slot.renumbered (m : Nat) (s : Slot) : Slot := { s with tag := m + s.tag }

def Term.renumbered (m : Nat) : Term → Term
  | none => none
  | literal v => literal v
  | literals vs => literals vs
  | slot s => slot (s.renumbered m)
  | slots ss => slots (ss.map (Slot.renumbered m))
  | range low high => range (low.renumbered m) (high.renumbered m)

def Test.renumbered (m : Nat) (t : Test) : Test := { t with term := t.term.renumbered m }

def JoinedSource.renumbered (m : Nat) (j : JoinedSource) : JoinedSource :=
  { j with on := j.on.map (Test.renumbered m) }

def Segment.renumbered (m : Nat) (s : Segment) : Segment :=
  { s with joins := s.joins.map (JoinedSource.renumbered m), filters := s.filters.map (Test.renumbered m) }

def Chain.renumbered (m : Nat) (c : Chain) : Chain where
  closed := c.closed.map fun (segment, kind) => (segment.renumbered m, kind)
  last := c.last.renumbered m

def Statement.renumbered (m : Nat) (s : Statement) : Statement :=
  { s with select.chain := s.select.chain.renumbered m }

theorem Statement.text_renumbered (m : Nat) (s : Statement) :
    (s.renumbered m).text =
      (s.select.chain.renumbered m).text ++ Select.tailText s.select.sorting s.select.limit ++ ";" := rfl

theorem Slot.ofValues_renumbered (m tag : Nat) (vs : List Value) :
    ofValues (m + tag) vs = (ofValues tag vs).map (renumbered m) := by
  simp [ofValues, renumbered, Function.comp_def]

namespace Predicate

theorem boundTerm_renumbered (m tag : Nat) (o : Operator) (operand : Operand) :
    boundTerm o operand (m + tag) = Term.renumbered m <$> boundTerm o operand tag := by
  cases o with
  | isNull | isNotNull => rfl
  | isIn | notIn =>
    rcases operand with _ | v | _ | ⟨v, more⟩
    · rfl
    · rfl
    · rfl
    · exact congrArg (fun ss => Except.ok (Term.slots ss)) (Slot.ofValues_renumbered m tag (v :: more))
  | between => rcases operand with _ | v | _ | ⟨low, _ | ⟨high, _ | ⟨third, more⟩⟩⟩ <;> rfl
  | equal | notEqual | greater | greaterOrEqual | less | lessOrEqual => cases operand <;> rfl

theorem term_renumbered (m tag : Nat) (p : Predicate) :
    p.term (m + tag) = Term.renumbered m <$> p.term tag := by
  by_cases bound : p.bound
  · simp only [term, if_pos bound, boundTerm_renumbered]
    cases boundTerm p.operator p.operand tag <;> rfl
  · simp only [term, if_neg bound]
    cases p.operand <;> rfl

end Predicate

theorem Condition.resolve_renumbered (m tag : Nat) (owner : Name) (c : Condition) :
    c.resolve owner (m + tag) = Test.renumbered m <$> c.resolve owner tag := by
  simp only [resolve, Predicate.term_renumbered, map_bind, bind_map_left, map_pure, Test.renumbered]

namespace Conditions

theorem number_add (m tag : Nat) (cs : Conditions) :
    cs.number (m + tag) = (cs.number tag).map fun (k, c) => (m + k, c) := by
  induction cs generalizing tag with
  | nil => rfl
  | cons c rest ih =>
    by_cases binds : c.predicate.binds
    · simp only [number, if_pos binds, List.map_cons, Nat.add_assoc, ih]
    · simp only [number, if_neg binds, List.map_cons, ih]

theorem resolve_renumbered (m tag : Nat) (owner : Name) (cs : Conditions) :
    cs.resolve owner (m + tag) = List.map (Test.renumbered m) <$> cs.resolve owner tag := by
  rw [resolve, number_add]
  exact mapM_map_of_comm (fun x => Condition.resolve_renumbered m x.1 owner x.2) _

end Conditions

namespace Draft

-- A draft as it is behind other SELECTs, with the numbers going on from theirs.
def resumed (front : Chain) (pool : AliasPool) (m : Nat) (d : Draft) : Draft where
  chain := front.behind (d.chain.renumbered m)
  owner := d.owner
  pool
  nextTag := m + d.nextTag

variable {front : Chain} {pool : AliasPool} {m : Nat}

theorem addConditions_resumed (d : Draft) (cs : Conditions) :
    (d.resumed front pool m).addConditions cs = resumed front pool m <$> d.addConditions cs := by
  simp only [addConditions, resumed, Conditions.resolve_renumbered, map_bind, bind_map_left, map_pure]
  refine bind_congr fun tests => congrArg pure ?_
  simp [Chain.behind, Chain.renumbered, Segment.renumbered, Nat.add_assoc]

theorem addJoin_resumed (settings : Settings) (d : Draft) {j : Join} {text : String}
    (named : j.tableAlias = some text) :
    (d.resumed front pool m).addJoin settings j = resumed front pool m <$> d.addJoin settings j := by
  simp only [addJoin, resumed, named, AliasPool.choose_some, Conditions.resolve_renumbered, Traced.lift_map,
    Traced.lift_flaw_map, map_bind, bind_map_left, map_pure]
  refine bind_congr fun table => bind_congr fun name => bind_congr fun side =>
    bind_congr fun on => congrArg pure ?_
  simp [Chain.behind, Chain.renumbered, Segment.renumbered, JoinedSource.renumbered, Nat.add_assoc]

theorem addUnion_resumed (d : Draft) {u : Union} {text : String} (named : u.tableAlias = some text) :
    (d.resumed front pool m).addUnion u = resumed front pool m <$> d.addUnion u := by
  simp only [addUnion, resumed, named, AliasPool.choose_some, Outcome.lift_flaw_map, map_bind, bind_map_left, map_pure]
  refine bind_congr fun table => bind_congr fun name => bind_congr fun qualifier =>
    bind_congr fun columns => congrArg pure ?_
  simp [Chain.behind, Chain.renumbered, Segment.renumbered, Chain.extend]

theorem add_resumed (settings : Settings) (d : Draft) {c : Clause} (named : c.naming? ≠ some none) :
    (d.resumed front pool m).add settings c = resumed front pool m <$> d.add settings c := by
  cases c with
  | conditions cs => exact (congrArg liftM (d.addConditions_resumed cs)).trans (Traced.lift_map _ _)
  | join j =>
    obtain ⟨text, given⟩ := Option.ne_none_iff_exists'.1 fun none => named (congrArg some none)
    exact d.addJoin_resumed settings given
  | union u =>
    obtain ⟨text, given⟩ := Option.ne_none_iff_exists'.1 fun none => named (congrArg some none)
    exact (congrArg liftM (d.addUnion_resumed given)).trans (Traced.lift_map _ _)

end Draft

end BoundSelect
