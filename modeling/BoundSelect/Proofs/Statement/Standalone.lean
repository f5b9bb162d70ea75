import BoundSelect.Proofs.Statement.Continuation
import BoundSelect.Proofs.Select.Renumbered
import BoundSelect.Proofs.Statement.Inheritance
import BoundSelect.Proofs.Statement.Values

set_option autoImplicit false

namespace BoundSelect

open Outcome Text Reference

-- The SELECT that a union starts as a query of its own, `left` being the columns on the left of it.
def Union.query (u : Union) (name : String) (left : List String) (rest : List Clause) (settings : Settings) :
    Query where
  table := u.table
  tableAlias := some name
  columns := Reference.columns (u.columnsAlias.getD name) (taken u left)
  clauses := rest
  settings

namespace Draft

theorem parseColumns_texts {is : List Identifier} (fine : ∀ i ∈ is, i.WellFormed) :
    parseColumns (is.map Identifier.text) = .ok is := by
  have back : ∀ i ∈ is, (liftM (Identifier.parseColumn i.text) : Except Fault Identifier) = pure (id i) := by
    intro i hi
    exact lift_eq_ok_iff.2 (fine i hi).parseColumn_text
  have all : parseColumns (is.map Identifier.text) = .ok (is.map id) := mapM_map_eq_pure back
  rwa [List.map_id] at all

theorem selected_selected (a b : Name) (is : List Identifier) : selected a (selected b is) = selected b is := by
  cases is with
  | nil => rfl
  | cons i rest => simp [selected, Function.comp_def]

variable {settings : Settings} {d e : Draft}

theorem Step.start_query {u : Union} {name : String} {left : List String} (step : Step settings d (.union u) e)
    (lists : d.Lists left) (named : u.tableAlias = some name) (rest : List Clause) :
    ∃ start, Draft.start (u.query name left rest settings) = .ok start ∧
      e = start.resumed e.chain e.pool d.nextTag := by
  cases step with
  | @union _ table own qualifier pool columns read chosen qualified listed =>
    obtain ⟨_, given, parsed, rfl⟩ | ⟨none, _⟩ := AliasPool.choose_eq_ok_iff.1 chosen
    · obtain rfl := Option.some.inj (named.symm.trans given)
      obtain ⟨fineOwn, written⟩ := Name.parse_sound parsed
      obtain ⟨is, fine, texts, same⟩ := lists.union listed
      have fineQualifier := wellFormed_of_unionQualifier fineOwn qualified
      have spelled : (u.query name left rest settings).columns =
          (selected qualifier columns).map Identifier.text := by
        rw [same, ← columns_text fine, texts, ← qualifier_text qualified, written]
        rfl
      have columnsRead : parseColumns (u.query name left rest settings).columns =
          .ok (selected qualifier columns) := by
        rw [spelled, same]
        exact parseColumns_texts (wellFormed_of_selected fineQualifier fine)
      have tableRead : parseTable .table u.table = .ok table :=
        parseTable_eq_ok_iff.2 (parseTable_eq_ok_iff.1 read)
      have chosenAgain (reserved : AliasPool) : reserved.choose (some name) table = .ok (own, reserved) :=
        AliasPool.choose_eq_ok_iff.2 (.inl ⟨name, rfl, parsed, rfl⟩)
      refine ⟨_, start_eq_ok_iff.2 ⟨table, own, _, _, tableRead, chosenAgain _, columnsRead, rfl⟩, ?_⟩
      simp [resumed, Chain.behind, Chain.renumbered, Chain.extend, Segment.renumbered, selected_selected]
    · cases named.symm.trans none

theorem Run.of_resumed {start : Draft} {front : Chain} {pool : AliasPool} {m : Nat} {clauses : List Clause}
    (run : Run settings (start.resumed front pool m) clauses e) (named : ∀ c ∈ clauses, c.naming? ≠ some none) :
    ∃ d, Run settings start clauses d ∧ e = d.resumed front pool m := by
  have all : clauses.foldlM (add settings) (start.resumed front pool m) =
      resumed front pool m <$> clauses.foldlM (add settings) start :=
    foldlM_eq_map_of_comm (fun d c hc => add_resumed settings d (named c hc)) start
  have outcomes := congrArg Traced.outcome all
  rw [Traced.outcome_map, Traced.outcome_foldlM, Traced.outcome_foldlM] at outcomes
  obtain ⟨d, ran, same⟩ := map_eq_ok_iff.1 (outcomes.symm.trans run)
  exact ⟨d, ran, same.symm⟩

theorem Run.first {clauses : List Clause} (run : Run settings d clauses e)
    (ununited : ∀ c ∈ clauses, c.union? = none) :
    e.chain.closed = d.chain.closed ∧ e.chain.last.columns = d.chain.last.columns := by
  refine run_invariant (I := fun e => e.chain.closed = d.chain.closed ∧
    e.chain.last.columns = d.chain.last.columns) ?_ run ⟨rfl, rfl⟩
  intro e f c hc step same
  cases step with
  | conditions resolved => exact same
  | join read named sided resolved => exact same
  | union read named qualified listed => cases ununited _ hc

theorem Run.lists_of_first {q : Query} {clauses : List Clause} (run : Run settings d clauses e)
    (started : Draft.start q = .ok d) (ununited : ∀ c ∈ clauses, c.union? = none) :
    e.chain.closed = [] ∧ e.Lists q.columns := by
  obtain ⟨closed, columns⟩ := run.first ununited
  have lists := lists_of_start started
  unfold Lists at lists ⊢
  rw [closed, closed_of_start started, columns]
  exact ⟨rfl, lists⟩

end Draft

theorem Binds.Hold.getElem?_key {b : Binds} {ps : List Predicate} (hold : b.Hold ps) (k i : Nat) :
    b[Tag.text k ++ toString i]? = ps[k]?.bind fun p => p.operand.allValues[i]? := by
  refine Option.ext fun v => (hold.values _ v).trans ?_
  rw [Option.bind_eq_some_iff]
  constructor
  · rintro ⟨k', i', p, found, value, key⟩
    obtain ⟨rfl, rfl⟩ := Slot.key_injective (s := ⟨k, i, v⟩) (t := ⟨k', i', v⟩) key
    exact ⟨p, found, value⟩
  · rintro ⟨p, found, value⟩
    exact ⟨k, i, p, found, value, rfl⟩

theorem union_stands_alone {q : Query} {s : Statement} {before rest : List Clause} {u : Union} {name : String}
    (unordered : q.orderBy = none) (unlimited : q.limit = none)
    (split : q.clauses = before ++ .union u :: rest) (first : ∀ c ∈ before, c.union? = none)
    (named : u.tableAlias = some name) (namedLater : ∀ c ∈ rest, c.naming? ≠ some none)
    (built : q.build.outcome = .ok s) :
    let m := Conditions.bindCount (before.flatMap Clause.tested)
    ∃ t, (u.query name q.columns rest q.settings).build.outcome = .ok t ∧
      s.text = s.select.chain.main.text ++ unionText u.kind ++ (t.renumbered m).text ∧
      ∀ k i : Nat, s.binds[Tag.text (m + k) ++ toString i]? = t.binds[Tag.text k ++ toString i]? := by
  intro m
  have binds := Query.binds_hold_of_build built
  obtain ⟨select, selected, rfl⟩ := Query.fragment_eq_ok_iff.1 (Query.build_eq_ok_iff.1 built)
  have whole := Query.tail_of_unordered unordered unlimited selected
  obtain ⟨start, e, sorting, started, run, _, rfl⟩ := Query.select_eq_ok_iff.1 selected
  rw [split] at run
  obtain ⟨mid, runFirst, runRest⟩ := Draft.run_append_iff.1 run
  obtain ⟨next, step, others⟩ := Draft.run_cons_iff.1 runRest
  obtain ⟨closed, lists⟩ := runFirst.lists_of_first started first
  have number : mid.nextTag = m := by
    rw [runFirst.nextTag, (Draft.start_slots started).2, Nat.zero_add]
  obtain ⟨alone, startedAlone, resumed⟩ := step.start_query lists named rest
  rw [number] at resumed
  rw [resumed] at others
  obtain ⟨d, ran, rfl⟩ := others.of_resumed namedLater
  obtain ⟨segment, extended⟩ := step.extend
  have selectedAlone : (u.query name q.columns rest q.settings).select.outcome =
      .ok { chain := d.chain, sorting := none, limit := none } :=
    Query.select_eq_ok_iff.2 ⟨alone, d, none, startedAlone, ran, rfl, rfl⟩
  have builtAlone := Query.build_eq_ok_iff.2 (Query.fragment_eq_ok_iff.2 ⟨_, selectedAlone, rfl⟩)
  refine ⟨_, builtAlone, ?_, ?_⟩
  · rw [Statement.text, Statement.body, whole, Statement.text_renumbered]
    simp [Draft.resumed, extended, Chain.text_behind, Chain.closedText_extend, Chain.main_behind_extend,
      Chain.text_of_closed closed, Select.tailText, String.append_assoc]
  · intro k i
    have bindsAlone := Query.binds_hold_of_build builtAlone
    have binding : q.binding =
        Conditions.binding (before.flatMap Clause.tested) ++ (u.query name q.columns rest q.settings).binding := by
      simp [Query.binding, Query.tested, split, Conditions.binding, Clause.tested, Union.query]
    rw [binds.getElem?_key, bindsAlone.getElem?_key, binding, List.getElem?_append_right, Conditions.length_binding,
      Nat.add_sub_cancel_left]
    rw [Conditions.length_binding]
    exact Nat.le_add_right m k

-- On the left there are filters that wait for their place, and an alias that is no longer in force on the right.
def Query.united : Query where
  table := "orders"
  columns := ["id", "m.name"]
  clauses := [
    .conditions [⟨"state", .values .isIn [.text "open", .null]⟩, ⟨"gone", .isNull⟩],
    .join {
      table := "markets"
      tableAlias := some "m"
      on := [⟨"id", .column .equal "o0.market"⟩, ⟨"zone", .value .equal (.int 7)⟩] },
    .union { kind := some .all, table := "archive", tableAlias := some "a" },
    .conditions [⟨"year", .between (.int 2001) (.int 2009)⟩],
    .union { table := "lost", tableAlias := some "l", columnsAlias := some "x" },
    .join { table := "m", tableAlias := some "m1", on := [⟨"id", .value .less (.int 3)⟩] }]

def Query.unitedRight : Query where
  table := "archive"
  tableAlias := some "a"
  columns := ["a.id", "a.name"]
  clauses := Query.united.clauses.drop 3

theorem union_stands_alone_united :
    let right (first second third : String) :=
      "SELECT a.id,a.name FROM archive AS a\n WHERE a.year BETWEEN " ++ first ++ " AND " ++ second ++
        "\nUNION SELECT x.id,x.name FROM lost AS l\nJOIN m AS m1 ON m1.id < " ++ third ++ ";"
    ∃ s t, Query.united.build.outcome = .ok s ∧ Query.unitedRight.build.outcome = .ok t ∧
      s.text = s.select.chain.main.text ++ "\nUNION ALL " ++ (t.renumbered 2).text ∧
      s.binds["AAC1"]? = t.binds["AAA1"]? ∧ s.binds["AAD0"]? = t.binds["AAB0"]? ∧
      (t.renumbered 2).text = right ":AAC0" ":AAC1" ":AAD0" ∧ t.text = right ":AAA0" ":AAA1" ":AAB0" := by
  intro right
  have built : Query.united.build.outcome.isOk := by decide +kernel
  obtain ⟨s, h⟩ := isOk_iff.1 built
  have texts : Query.unitedRight.build.outcome.toOption.map (fun t => ((t.renumbered 2).text, t.text)) =
      some (right ":AAC0" ":AAC1" ":AAD0", right ":AAA0" ":AAA1" ":AAB0") := by decide +kernel
  let u : Union := { kind := some .all, table := "archive", tableAlias := some "a" }
  have split : Query.united.clauses = Query.united.clauses.take 2 ++ .union u :: Query.united.clauses.drop 3 := rfl
  have first : ∀ c ∈ Query.united.clauses.take 2, c.union? = none := by simp [Query.united, Clause.union?]
  have named : ∀ c ∈ Query.united.clauses.drop 3, c.naming? ≠ some none := by simp [Query.united, Clause.naming?]
  obtain ⟨t, ht, text, values⟩ := union_stands_alone rfl rfl split first rfl named h
  have alone : u.query "a" Query.united.columns (Query.united.clauses.drop 3) {} = Query.unitedRight := by
    have columns : Reference.columns "a" (taken u Query.united.columns) = Query.unitedRight.columns := by decide +kernel
    rw [Union.query, Option.getD_none, columns]
    rfl
  have range : s.binds[Tag.text 2 ++ "1"]? = t.binds[Tag.text 0 ++ "1"]? := values 0 1
  have joined : s.binds[Tag.text 3 ++ "0"]? = t.binds[Tag.text 1 ++ "0"]? := values 1 0
  have tags : Tag.text 0 = "AAA" ∧ Tag.text 1 = "AAB" ∧ Tag.text 2 = "AAC" ∧ Tag.text 3 = "AAD" := by decide +kernel
  rw [tags.1, tags.2.2.1] at range
  rw [tags.2.1, tags.2.2.2] at joined
  have builtRight : Query.unitedRight.build.outcome = .ok t := by
    rw [← alone]
    exact ht
  rw [builtRight] at texts
  obtain ⟨shifted, own⟩ := Prod.mk.inj (Option.some.inj texts)
  exact ⟨s, t, h, builtRight, text, range, joined, shifted, own⟩

end BoundSelect
