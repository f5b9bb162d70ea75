import BoundSelect.Proofs.Identifier.Writing
import BoundSelect.Proofs.Statement.Rendering

set_option autoImplicit false

namespace BoundSelect

open Outcome Text Reference

inductive Respelled (owner column : String) : String → Prop
  | asIs : Respelled owner column column
  | qualified (bare : isQualified column = false) : Respelled owner column (owner ++ "." ++ column)

structure Condition.Respelled (owner : String) (c c' : Condition) : Prop where
  column : BoundSelect.Respelled owner c.column c'.column
  predicate : c'.predicate = c.predicate

structure OrderBy.Respelled (owner : String) (o o' : OrderBy) : Prop where
  column : BoundSelect.Respelled owner o.column o'.column
  direction : o'.direction = o.direction

-- The owner is the alias of its table, or of the last table before it if it has none.
inductive Clause.Respelled (owner : String) : Clause → Clause → Prop
  | conditions {cs cs' : Conditions} (tests : List.Forall₂ (Condition.Respelled owner) cs cs') :
      Respelled owner (.conditions cs) (.conditions cs')
  | join {j : Join} {on : Conditions} (tests : List.Forall₂ (Condition.Respelled owner) j.on on) :
      Respelled owner (.join j) (.join { j with on })
  | union {u : Union} {columns : Option (List String)}
      (listed : Option.Rel (List.Forall₂ (BoundSelect.Respelled (u.columnsAlias.getD owner))) u.columns columns) :
      Respelled owner (.union u) (.union { u with columns })

inductive Query.Respelled (q : Query) : Query → Prop
  | mk {main : String} {pool : AliasPool} {columns : List String} {clauses : List Clause} {orderBy : Option OrderBy}
      (named : chosen (reserved q) q.tableAlias q.table = (main, pool))
      (listed : List.Forall₂ (BoundSelect.Respelled main) q.columns columns)
      (applied : List.Forall₂ (fun l => Clause.Respelled l.owner l.clause) (label main pool 0 q.clauses) clauses)
      (ordered : Option.Rel (OrderBy.Respelled main) q.orderBy orderBy) :
      Respelled q { q with columns, clauses, orderBy }

theorem Respelled.read {owner : Name} {column column' : String} {i : Identifier}
    (respelled : Respelled owner.text column column') (fine : owner.WellFormed)
    (read : Identifier.parseColumn column = .ok i) :
    ∃ i', Identifier.parseColumn column' = .ok i' ∧ i'.qualify owner = i.qualify owner := by
  cases respelled with
  | asIs => exact ⟨i, read, rfl⟩
  | qualified bare =>
    obtain ⟨fineColumn, rfl⟩ := Identifier.parseColumn_sound read
    rw [fineColumn.isQualified_text] at bare
    have written : (i.qualify owner).text = owner.text ++ "." ++ i.text := by
      rw [Identifier.text_qualify, bare, if_neg Bool.false_ne_true]
    have back : Identifier.parseColumn (i.qualify owner).text = .ok (i.qualify owner) :=
      (fineColumn.qualify fine).parseColumn_text
    rw [written] at back
    exact ⟨i.qualify owner, back, Identifier.qualify_qualify owner owner i⟩

theorem Condition.Respelled.resolve {owner : Name} {tag : Nat} {c c' : Condition} {t : Test}
    (respelled : c.Respelled owner.text c') (fine : owner.WellFormed) (resolved : c.resolve owner tag = .ok t) :
    c'.resolve owner tag = .ok t := by
  obtain ⟨column, term, read, made, rfl⟩ := Condition.resolve_eq_ok_iff.1 resolved
  obtain ⟨column', read', same⟩ := respelled.column.read fine read
  refine Condition.resolve_eq_ok_iff.2 ⟨column', term, read', ?_, ?_⟩
  · rw [respelled.predicate, made]
  · rw [respelled.predicate, same]

namespace Conditions

variable {cs cs' : Conditions}

theorem bindCount_of_respelled {owner : String} (respelled : List.Forall₂ (Condition.Respelled owner) cs cs') :
    cs'.bindCount = cs.bindCount := by
  induction respelled with
  | nil => rfl
  | cons first _ ih =>
    unfold bindCount at ih ⊢
    rw [List.countP_cons, List.countP_cons, ih, first.predicate]

theorem resolve_of_respelled {owner : Name} {tag : Nat} {tests : List Test}
    (respelled : List.Forall₂ (Condition.Respelled owner.text) cs cs') (fine : owner.WellFormed)
    (resolved : cs.resolve owner tag = .ok tests) : cs'.resolve owner tag = .ok tests := by
  induction respelled generalizing tag tests with
  | nil => exact resolved
  | @cons c c' rest rest' first _ ih =>
    rw [resolve, number, mapM_eq_ok_iff] at resolved ⊢
    obtain _ | ⟨head, others⟩ := resolved
    have later := ih (mapM_eq_ok_iff.2 others)
    rw [first.predicate]
    exact .cons (first.resolve fine head) (mapM_eq_ok_iff.1 later)

end Conditions

theorem OrderBy.resolveGiven_of_respelled {owner : Name} {o o' : Option OrderBy} {sorting : Option Sorting}
    (respelled : Option.Rel (OrderBy.Respelled owner.text) o o') (fine : owner.WellFormed)
    (resolved : resolveGiven o (Identifier.qualify owner) = .ok sorting) :
    resolveGiven o' (Identifier.qualify owner) = .ok sorting := by
  cases respelled with
  | none => exact resolved
  | @some o o' respelled =>
    obtain ⟨s, made, rfl⟩ := map_eq_ok_iff.1 resolved
    obtain ⟨column, read, rfl⟩ := resolve_eq_ok_iff.1 made
    obtain ⟨column', read', same⟩ := respelled.column.read fine read
    apply map_eq_ok
    apply resolve_eq_ok_iff.2
    refine ⟨column', read', ?_⟩
    rw [same, respelled.direction]

namespace Draft

theorem selected_eq_of_map_qualify {owner : Name} {is is' : List Identifier}
    (same : is'.map (Identifier.qualify owner) = is.map (Identifier.qualify owner)) :
    selected owner is' = selected owner is := by
  have empty : is'.isEmpty = is.isEmpty := by
    have mapped := congrArg List.isEmpty same
    rwa [List.isEmpty_map, List.isEmpty_map] at mapped
  rw [selected, selected, empty, same]

theorem parseColumns_of_respelled {owner : Name} {columns columns' : List String} {is : List Identifier}
    (respelled : List.Forall₂ (Respelled owner.text) columns columns') (fine : owner.WellFormed)
    (listed : parseColumns columns = .ok is) :
    ∃ is', parseColumns columns' = .ok is' ∧
      is'.map (Identifier.qualify owner) = is.map (Identifier.qualify owner) := by
  induction respelled generalizing is with
  | nil =>
    obtain rfl := pure_eq_ok_iff.1 listed
    exact ⟨[], rfl, rfl⟩
  | cons first _ ih =>
    rw [parseColumns, mapM_eq_ok_iff] at listed
    obtain _ | ⟨head, others⟩ := listed
    obtain ⟨i', read, same⟩ := first.read fine (lift_eq_ok_iff.1 head)
    obtain ⟨is', rest, sameRest⟩ := ih (mapM_eq_ok_iff.2 others)
    refine ⟨i' :: is', mapM_eq_ok_iff.2 (.cons (lift_eq_ok_iff.2 read) (mapM_eq_ok_iff.1 rest)), ?_⟩
    rw [List.map_cons, List.map_cons, same, sameRest]

theorem unionColumns_of_respelled {u : Union} {columns : Option (List String)} {qualifier : Name}
    {left is : List Identifier}
    (respelled : Option.Rel (List.Forall₂ (Respelled qualifier.text)) u.columns columns) (fine : qualifier.WellFormed)
    (listed : unionColumns u left = .ok is) :
    ∃ is', unionColumns { u with columns } left = .ok is' ∧ selected qualifier is' = selected qualifier is := by
  rcases u with ⟨kind, table, tableAlias, own, columnsAlias⟩
  cases respelled with
  | none => exact ⟨is, listed, rfl⟩
  | some respelled =>
    obtain ⟨is', listed', same⟩ := parseColumns_of_respelled respelled fine listed
    exact ⟨is', listed', selected_eq_of_map_qualify same⟩

variable {settings : Settings} {d e : Draft}

theorem Step.named {c : Clause} (step : Step settings d c e) :
    named d.owner.text d.pool c = (e.owner.text, e.pool) := by
  cases step with
  | conditions resolved => rfl
  | join read named sided resolved => exact chosen_of_read read named
  | union read named qualified listed => exact chosen_of_read read named

theorem Step.of_respelled {c c' : Clause} (step : Step settings d c e) (respelled : c.Respelled e.owner.text c')
    (fine : e.owner.WellFormed) : Step settings d c' e := by
  cases step with
  | conditions resolved =>
    cases respelled with
    | conditions tests =>
      rw [← Conditions.bindCount_of_respelled tests]
      exact .conditions (Conditions.resolve_of_respelled tests fine resolved)
  | join read named sided resolved =>
    cases respelled with
    | @join _ on tests =>
      rw [← Conditions.bindCount_of_respelled tests]
      exact .join read named sided (Conditions.resolve_of_respelled tests fine resolved)
  | @union u table name qualifier pool is read named qualified listed =>
    cases respelled with
    | @union _ columns own =>
      rw [qualifier_text qualified] at own
      obtain ⟨is', listed', same⟩ := unionColumns_of_respelled own (wellFormed_of_unionQualifier fine qualified) listed
      rw [← same]
      exact .union read named qualified listed'

theorem Run.of_respelled {clauses clauses' : List Clause} (run : Run settings d clauses e)
    (fine : d.WellFormed fun _ => True) {tag : Nat}
    (respelled : List.Forall₂ (fun l => Clause.Respelled l.owner l.clause) (label d.owner.text d.pool tag clauses)
      clauses') : Run settings d clauses' e := by
  induction clauses generalizing d clauses' tag with
  | nil =>
    cases respelled
    exact run
  | cons c rest ih =>
    obtain ⟨next, step, others⟩ := run_cons_iff.1 run
    rw [label, step.named] at respelled
    obtain _ | ⟨first, later⟩ := respelled
    have fineNext : next.WellFormed fun _ => True := step.wellFormed (fun _ _ _ _ _ => trivial) fine
    exact run_cons_iff.2 ⟨next, step.of_respelled first fineNext.owner, ih others fineNext later⟩

end Draft

namespace Query

theorem aliases_of_respelled {clauses clauses' : List Clause} {owner : String} {pool : AliasPool} {tag : Nat}
    (respelled : List.Forall₂ (fun l => Clause.Respelled l.owner l.clause) (label owner pool tag clauses) clauses') :
    clauses'.filterMap Clause.tableAlias? = clauses.filterMap Clause.tableAlias? := by
  induction clauses generalizing owner pool tag clauses' with
  | nil =>
    cases respelled
    rfl
  | cons c rest ih =>
    rw [label] at respelled
    obtain _ | ⟨first, later⟩ := respelled
    have others := ih later
    have same : ∀ c', Clause.Respelled (named owner pool c).1 c c' → c'.tableAlias? = c.tableAlias? := by
      rintro _ (_ | _ | _) <;> rfl
    simp only [List.filterMap_cons, same _ first, others]

theorem select_of_respelled {q q' : Query} {s : Select} (respelled : q.Respelled q')
    (selected : q.select.outcome = .ok s) : q'.select.outcome = .ok s := by
  obtain ⟨start, d, sorting, started, run, sorted, rfl⟩ := select_eq_ok_iff.1 selected
  obtain ⟨table, name, pool, columns, read, named, listed, rfl⟩ := Draft.start_eq_ok_iff.1 started
  have main : d.chain.main.source = { table, name } := run.main.1
  have fineStart := Draft.wellFormed_of_start (T := fun _ => True) started
  have fine : name.WellFormed := fineStart.owner
  cases respelled with
  | @mk main' pool' columns' clauses' orderBy' chosen given applied ordered =>
    obtain ⟨fineTable, written⟩ := Draft.wellFormed_of_parseTable read
    have start := Draft.chosen_start fineTable named
    rw [written, chosen] at start
    obtain ⟨rfl, rfl⟩ := Prod.mk.inj start
    obtain ⟨columns', listed', same⟩ := Draft.parseColumns_of_respelled given fine listed
    rw [← aliases_of_respelled applied] at named
    rw [main] at sorted
    refine select_eq_ok_iff.2 ⟨_, d, sorting, ?_, run.of_respelled fineStart applied, ?_, rfl⟩
    · refine Draft.start_eq_ok_iff.2 ⟨table, name, pool, columns', read, named, listed', ?_⟩
      rw [Draft.selected_eq_of_map_qualify same]
    · rw [main]
      exact OrderBy.resolveGiven_of_respelled ordered fine sorted

theorem fragment_of_respelled {q q' : Query} {s : Statement} (respelled : q.Respelled q')
    (built : q.fragment.outcome = .ok s) : q'.fragment.outcome = .ok { s with columns := q'.columns } := by
  obtain ⟨select, selected, rfl⟩ := fragment_eq_ok_iff.1 built
  exact fragment_eq_ok_iff.2 ⟨select, select_of_respelled respelled selected, rfl⟩

end Query

theorem RecursiveQuery.build_of_respelled {r : RecursiveQuery} {body : Query} {base : Statement}
    (respelled : r.body.Respelled body) (built : r.body.fragment.outcome = .ok base) :
    ({ r with body }).build.outcome =
      (fun t => { t with base := { t.base with columns := body.columns } }) <$> r.build.outcome := by
  have again : body.fragment.outcome = pure { base with columns := body.columns } :=
    Query.fragment_of_respelled respelled built
  have same : r.body.fragment.outcome = pure base := built
  have ordered : body.orderBy.isSome = r.body.orderBy.isSome := by
    rcases respelled with ⟨_, _, _, ordered⟩
    generalize r.body.orderBy = o at ordered ⊢
    cases ordered <;> rfl
  have limited : body.limit = r.body.limit := by
    rcases respelled
    rfl
  rw [← outcome_finished, ← outcome_finished]
  unfold finished
  rw [ordered, limited]
  cases Text.isAllBlank r.name <;> cases r.body.orderBy.isSome || r.body.limit.isSome <;>
    simp only [Bool.false_eq_true, if_false, if_true, Traced.outcome_bind, again, same, pure_bind, map_bind] <;>
    rfl

theorem qualifying_by_hand {q q' : Query} {s : Statement} (respelled : q.Respelled q')
    (built : q.build.outcome = .ok s) :
    (∃ s', q'.build.outcome = .ok s' ∧ s'.text = s.text ∧ s'.tableAlias = s.tableAlias ∧ s'.binds = s.binds) ∧
      ∀ r : RecursiveQuery, r.body = q →
        (fun t => (t.text, t.binds)) <$> ({ r with body := q' }).build.outcome =
          (fun t => (t.text, t.binds)) <$> r.build.outcome := by
  have fragment := Query.build_eq_ok_iff.1 built
  constructor
  · have fragment' := Query.fragment_of_respelled respelled fragment
    exact ⟨_, Query.build_eq_ok_iff.2 fragment', rfl, rfl, rfl⟩
  · rintro r rfl
    rw [RecursiveQuery.build_of_respelled respelled fragment, Functor.map_map]
    rfl

def Query.bare : Query where
  table := "users"
  columns := ["id", "\"first.name\""]
  clauses := [
    .conditions [⟨"id", .value .greater (.int 1)⟩],
    .join { table := "teams", tableAlias := some "\"t.1\"", on := [⟨"id", .column .equal "u0.team"⟩] },
    .conditions [⟨"size", .isNotNull⟩, ⟨"name", .value .equal (.text "ops")⟩],
    .union { table := "guests", tableAlias := some "g", columns := some ["*"], columnsAlias := some "x" },
    .union { table := "users" }]

def Query.half : Query :=
  { Query.bare with
    columns := ["u0.id", "\"first.name\""]
    clauses := [
      .conditions [⟨"u0.id", .value .greater (.int 1)⟩],
      .join { table := "teams", tableAlias := some "\"t.1\"", on := [⟨"\"t.1\".id", .column .equal "u0.team"⟩] },
      .conditions [⟨"size", .isNotNull⟩, ⟨"\"t.1\".name", .value .equal (.text "ops")⟩],
      .union { table := "guests", tableAlias := some "g", columns := some ["x.*"], columnsAlias := some "x" },
      .union { table := "users" }] }

theorem qualifying_by_hand_half :
    let spelled :=
      "SELECT u0.id,u0.\"first.name\" FROM users AS u0\nJOIN teams AS \"t.1\" ON \"t.1\".id = u0.team" ++
        "\n WHERE u0.id > :AAA0 AND \"t.1\".size IS NOT NULL AND \"t.1\".name = :AAB0" ++
        "\nUNION SELECT x.* FROM guests AS g\nUNION SELECT u1.* FROM users AS u1;"
    Query.bare.Respelled Query.half ∧
      (∃ s s', Query.bare.build.outcome = .ok s ∧ Query.half.build.outcome = .ok s' ∧ s'.text = s.text ∧
        s'.binds = s.binds ∧ s.text = spelled) ∧
      ∃ t t', (RecursiveQuery.mk Query.bare "r" none none).build.outcome = .ok t ∧
        (RecursiveQuery.mk Query.half "r" none none).build.outcome = .ok t' ∧ t'.text = t.text := by
  intro spelled
  obtain ⟨pool, named⟩ : ∃ pool, chosen (reserved Query.bare) none "users" = ("u0", pool) :=
    ⟨_, Prod.ext (by decide +kernel) rfl⟩
  have respelled : Query.bare.Respelled Query.half := by
    refine .mk named ?_ ?_ .none
    · exact .cons (.qualified (by decide)) (.cons .asIs .nil)
    · refine .cons (.conditions ?_) (.cons (.join ?_) (.cons (.conditions ?_) (.cons (.union ?_) (.cons (.union ?_) .nil))))
      · exact .cons ⟨.qualified (by decide), rfl⟩ .nil
      · exact .cons ⟨.qualified (by decide), rfl⟩ .nil
      · exact .cons ⟨.asIs, rfl⟩ (.cons ⟨.qualified (by decide), rfl⟩ .nil)
      · exact .some (.cons (.qualified (by decide)) .nil)
      · exact .none
  have shown : Query.bare.build.outcome.toOption.map Statement.text = some spelled := by decide +kernel
  obtain ⟨s, h, whole⟩ := exists_ok_of_toOption shown
  obtain ⟨⟨s', h', text, _, binds⟩, recursive⟩ := qualifying_by_hand respelled h
  have builtRecursive : (RecursiveQuery.mk Query.bare "r" none none).build.outcome.isOk := by decide +kernel
  obtain ⟨t, ht⟩ := isOk_iff.1 builtRecursive
  have same := recursive (.mk Query.bare "r" none none) rfl
  rw [ht] at same
  obtain ⟨t', ht', shownRecursive⟩ := map_eq_ok_iff.1 same
  exact ⟨respelled, ⟨s, s', h, h', text, binds, whole⟩, t, t', ht, ht', (Prod.mk.inj shownRecursive).1⟩

end BoundSelect
