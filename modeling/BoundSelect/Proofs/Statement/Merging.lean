import BoundSelect.Proofs.Outcome
import BoundSelect.Statement

set_option autoImplicit false

namespace BoundSelect

namespace Draft

theorem addConditions_nil (d : Draft) : d.addConditions [] = .ok d := by
  rcases d with ⟨⟨closed, columns, source, joins, filters⟩, owner, pool, tag⟩
  simp [addConditions, Conditions.resolve, Conditions.number, Conditions.bindCount, pure, Except.pure,
    bind, Except.bind]

theorem addConditions_append (d : Draft) (cs ds : Conditions) :
    d.addConditions (cs ++ ds) = d.addConditions cs >>= fun e => e.addConditions ds := by
  simp only [addConditions, Conditions.resolve, Conditions.number_append, Conditions.bindCount_append,
    List.mapM_append, bind_assoc, pure_bind]
  refine bind_congr fun tests => bind_congr fun more => congrArg pure ?_
  simp only [List.append_assoc, Nat.add_assoc]

-- The aliases that are to be kept clear of are a part of it, since the pool starts from them.
structure Interchangeable (settings : Settings) (clauses others : List Clause) : Prop where
  run : ∀ d : Draft, clauses.foldlM (add settings) d = others.foldlM (add settings) d
  aliases : clauses.filterMap Clause.tableAlias? = others.filterMap Clause.tableAlias?

variable {settings : Settings} {clauses others : List Clause}

theorem Interchangeable.among (same : Interchangeable settings clauses others) (before after : List Clause) :
    Interchangeable settings (before ++ clauses ++ after) (before ++ others ++ after) where
  run := by
    intro d
    simp only [List.foldlM_append, same.run]
  aliases := by
    simp only [List.filterMap_append, same.aliases]

theorem interchangeable_append (settings : Settings) (cs ds : Conditions) :
    Interchangeable settings [.conditions cs, .conditions ds] [.conditions (cs ++ ds)] where
  run := by
    intro d
    simp only [List.foldlM_cons, List.foldlM_nil, bind_pure, add, addConditions_append, Traced.lift_bind]
  aliases := rfl

theorem interchangeable_nil (settings : Settings) : Interchangeable settings [.conditions []] [] where
  run := by
    intro d
    simp only [List.foldlM_cons, List.foldlM_nil, bind_pure, add, addConditions_nil]
    rfl
  aliases := rfl

end Draft

theorem Query.build_eq_of_interchangeable (q : Query) {clauses others : List Clause}
    (same : Draft.Interchangeable q.settings clauses others) :
    ({ q with clauses }).build = ({ q with clauses := others }).build := by
  have start : Draft.start { q with clauses } = Draft.start { q with clauses := others } := by
    simp only [Draft.start, same.aliases]
  have draft : ({ q with clauses }).draft = ({ q with clauses := others }).draft := by
    simp only [Query.draft, start, same.run]
  simp only [Query.build, Query.fragment, Query.select, draft]

theorem conditions_merge (q : Query) (before after : List Clause) (cs ds : Conditions) :
    ({ q with clauses := before ++ [Clause.conditions cs, .conditions ds] ++ after }).build =
        ({ q with clauses := before ++ [Clause.conditions (cs ++ ds)] ++ after }).build ∧
      ({ q with clauses := before ++ [Clause.conditions []] ++ after }).build =
        ({ q with clauses := before ++ after }).build := by
  constructor
  · have split := Draft.interchangeable_append q.settings cs ds
    exact q.build_eq_of_interchangeable (split.among before after)
  · have none := Draft.interchangeable_nil q.settings
    have same := q.build_eq_of_interchangeable (none.among before after)
    rwa [List.append_nil] at same

end BoundSelect
