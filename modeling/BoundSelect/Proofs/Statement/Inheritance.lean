import BoundSelect.Proofs.Select.Continuation
import BoundSelect.Proofs.Select.Unions
import BoundSelect.Proofs.Statement.Rendering

set_option autoImplicit false

namespace BoundSelect

open Outcome Text Reference

def Clause.columns? (c : Clause) : Option (List String) := c.union?.bind Union.columns

-- The last list among the unions counts, and the given one if none of them has a list.
def columnsAfter (columns : List String) (clauses : List Clause) : List String :=
  (clauses.filterMap Clause.columns?).getLast?.getD columns

theorem columnsAfter_cons (columns : List String) (c : Clause) (rest : List Clause) :
    columnsAfter columns (c :: rest) = columnsAfter (c.columns?.getD columns) rest := by
  unfold columnsAfter
  cases own : c.columns? with
  | none => rw [List.filterMap_cons_none own, Option.getD_none]
  | some list =>
    rw [List.filterMap_cons_some own, List.getLast?_cons, Option.getD_some, Option.getD_some]

def requalified (owner : String) (columns : List String) : List String :=
  if columns.isEmpty then [owner ++ ".*"] else columns.map fun column => owner ++ "." ++ lastPart column

namespace Draft

theorem texts_selected_bare {is : List Identifier} (fine : ∀ i ∈ is, i.WellFormed) (owner : Name) :
    (selected owner (is.map Identifier.bare)).map Identifier.text =
      requalified owner.text (is.map Identifier.text) := by
  have each : ∀ i ∈ is, (i.bare.qualify owner).text = owner.text ++ "." ++ lastPart i.text := by
    intro i hi
    rw [(fine i hi).lastPart_text]
    exact Identifier.text_cons_path owner i.bare
  rw [texts_selected, requalified, List.isEmpty_map, List.isEmpty_map, List.map_map, List.map_map]
  exact congrArg (ite _ _) (List.map_congr_left each)

theorem path_of_mem_selected_bare {owner : Name} {is : List Identifier} :
    ∀ c ∈ selected owner (is.map Identifier.bare), c.path = [owner] := by
  intro c hc
  unfold selected at hc
  split at hc
  · rw [List.mem_singleton.1 hc]
  · obtain ⟨b, hb, rfl⟩ := List.mem_map.1 hc
    obtain ⟨i, _, rfl⟩ := List.mem_map.1 hb
    rfl

theorem length_selected (owner : Name) (is : List Identifier) :
    (selected owner is).length = max is.length 1 := by
  cases is with
  | nil => rfl
  | cons first rest => simp [selected]

def Passes (d : Draft) (columns : List String) : Prop :=
  ∃ is : List Identifier, (∀ i ∈ is, i.WellFormed) ∧ is.map Identifier.text = columns ∧
    ∀ owner, selected owner (d.chain.last.columns.map Identifier.bare) = selected owner (is.map Identifier.bare)

variable {settings : Settings} {d e : Draft} {columns : List String}

theorem lists_of_start {q : Query} (started : start q = .ok d) : d.Lists q.columns := by
  obtain ⟨table, name, pool, is, _, _, listed, rfl⟩ := start_eq_ok_iff.1 started
  exact ⟨name, is, rfl, wellFormed_of_parseColumns listed, parseColumns_text listed⟩

theorem closed_of_start {q : Query} (started : start q = .ok d) : d.chain.closed = [] := by
  obtain ⟨table, name, pool, is, _, _, _, rfl⟩ := start_eq_ok_iff.1 started
  rfl

theorem Lists.passes (lists : d.Lists columns) : d.Passes columns := by
  obtain ⟨qualifier, is, same, fine, texts⟩ := lists
  refine ⟨is, fine, texts, ?_⟩
  intro owner
  rw [same, selected_map_bare]

theorem Step.passes {c : Clause} (step : Step settings d c e) (passes : d.Passes columns) :
    e.Passes (c.columns?.getD columns) := by
  cases step with
  | conditions resolved => exact passes
  | join read named sided resolved => exact passes
  | @union u table name qualifier pool own read named qualified listed =>
    unfold unionColumns at listed
    split at listed
    next texts given =>
      have list : (Clause.union u).columns? = some texts := given
      rw [list, Option.getD_some]
      exact Lists.passes ⟨qualifier, own, rfl, wellFormed_of_parseColumns listed, parseColumns_text listed⟩
    next none =>
      have list : (Clause.union u).columns? = Option.none := none
      rw [list, Option.getD_none]
      obtain rfl := pure_eq_ok_iff.1 listed
      obtain ⟨is, fine, texts, same⟩ := passes
      refine ⟨is, fine, texts, ?_⟩
      intro owner
      -- What was bare before it got a qualifier is bare again without it.
      have bare : (d.chain.last.columns.map Identifier.bare).map Identifier.bare =
          d.chain.last.columns.map Identifier.bare := by
        simp [Identifier.bare, Function.comp_def]
      rw [← same owner]
      show selected owner ((selected qualifier _).map Identifier.bare) = _
      rw [selected_map_bare, bare]

theorem Run.passes {clauses : List Clause} (run : Run settings d clauses e) (passes : d.Passes columns) :
    e.Passes (columnsAfter columns clauses) := by
  induction clauses generalizing d columns with
  | nil =>
    rw [← run_nil_iff.1 run]
    exact passes
  | cons c rest ih =>
    obtain ⟨next, step, others⟩ := run_cons_iff.1 run
    rw [columnsAfter_cons]
    exact ih others (step.passes passes)

end Draft

structure Segment.TakesOver (s : Segment) (u : Union) (left : List String) : Prop where
  table : s.source.table.text = u.table
  tableAlias : ∀ text ∈ u.tableAlias, s.source.name.text = text
  columns : s.columns.map Identifier.text = requalified (u.columnsAlias.getD s.source.name.text) left
  -- There is one qualifier in front of each column, and nothing left of the one on the left.
  path : ∃ owner : Name, owner.text = u.columnsAlias.getD s.source.name.text ∧ ∀ c ∈ s.columns, c.path = [owner]
  count : s.columns.length = max left.length 1

theorem Draft.Step.takesOver {settings : Settings} {d e : Draft} {u : Union} {left : List String}
    (step : Step settings d (.union u) e) (passes : d.Passes left) (unlisted : u.columns = none) :
    e.chain.last.TakesOver u left := by
  cases step with
  | @union _ table name qualifier pool columns read named qualified listed =>
    obtain ⟨is, fine, rfl, same⟩ := passes
    rw [unionColumns, unlisted] at listed
    obtain rfl := pure_eq_ok_iff.1 listed
    have owner : u.columnsAlias.getD name.text = qualifier.text := qualifier_text qualified
    have own : selected qualifier (d.chain.last.columns.map Identifier.bare) =
        selected qualifier (is.map Identifier.bare) := same qualifier
    constructor
    · exact (wellFormed_of_parseTable read).2
    · intro text given
      rcases AliasPool.choose_eq_ok_iff.1 named with ⟨chosen, some, parsed, _⟩ | ⟨none, _⟩
      · obtain rfl := Option.some.inj (some.symm.trans given)
        exact (Name.parse_sound parsed).2
      · cases none.symm.trans given
    · show (selected qualifier _).map Identifier.text = requalified (u.columnsAlias.getD name.text) _
      rw [own, owner, texts_selected_bare fine]
    · refine ⟨qualifier, owner.symm, ?_⟩
      show ∀ c ∈ selected qualifier _, c.path = [qualifier]
      exact path_of_mem_selected_bare
    · show (selected qualifier _).length = _
      rw [own, length_selected, List.length_map, List.length_map]

theorem Segment.TakesOver.of_eq {s t : Segment} {u : Union} {left : List String} (takes : s.TakesOver u left)
    (columns : t.columns = s.columns) (source : t.source = s.source) : t.TakesOver u left := by
  obtain ⟨table, tableAlias, texts, path, count⟩ := takes
  rw [← columns] at texts path count
  rw [← source] at table tableAlias texts path
  exact ⟨table, tableAlias, texts, path, count⟩

theorem Segment.text_eq_append (s : Segment) :
    ∃ rest, s.text = "SELECT " ++ ",".intercalate (s.columns.map Identifier.text) ++ " FROM " ++
      s.source.table.text ++ " AS " ++ s.source.name.text ++ rest := by
  refine ⟨String.join (s.joins.map JoinedSource.text) ++ whereText s.filters, ?_⟩
  simp only [text, Source.text, String.append_assoc]

theorem Segment.TakesOver.text_eq_append {s : Segment} {u : Union} {left : List String} (takes : s.TakesOver u left) :
    ∃ rest, s.text = "SELECT " ++ ",".intercalate (requalified (u.columnsAlias.getD s.source.name.text) left) ++
      " FROM " ++ u.table ++ " AS " ++ s.source.name.text ++ rest := by
  obtain ⟨rest, text⟩ := s.text_eq_append
  rw [takes.columns, takes.table] at text
  exact ⟨rest, text⟩

-- The SELECT of the union is as far down the chain as there are unions before it.
theorem columns_inherited {q : Query} {s : Statement} {before after : List Clause} {u : Union}
    (split : q.clauses = before ++ .union u :: after) (unlisted : u.columns = none)
    (built : q.build.outcome = .ok s) :
    ∃ segment, s.select.chain.segments[(before.filterMap Clause.union?).length + 1]? = some segment ∧
      segment.TakesOver u (columnsAfter q.columns before) ∧
      ∃ (done : Chain) (rest back : String),
        done.segments = s.select.chain.segments.take ((before.filterMap Clause.union?).length + 1) ∧
        segment.text = "SELECT " ++
          ",".intercalate (requalified (u.columnsAlias.getD segment.source.name.text)
            (columnsAfter q.columns before)) ++
          " FROM " ++ u.table ++ " AS " ++ segment.source.name.text ++ rest ∧
        s.text = done.text ++ union u.kind ++ segment.text ++ back := by
  obtain ⟨select, selected, rfl⟩ := Query.fragment_eq_ok_iff.1 (Query.build_eq_ok_iff.1 built)
  obtain ⟨start, e, sorting, started, run, _, rfl⟩ := Query.select_eq_ok_iff.1 selected
  rw [split] at run
  obtain ⟨mid, runBefore, runRest⟩ := Draft.run_append_iff.1 run
  obtain ⟨next, step, others⟩ := Draft.run_cons_iff.1 runRest
  have takes := step.takesOver (runBefore.passes (Draft.lists_of_start started).passes) unlisted
  obtain ⟨c, goes⟩ := others.goesOn
  obtain ⟨segment, extended⟩ := step.extend
  have place : next.chain.closed.map Prod.fst = mid.chain.segments := by
    rw [extended, Chain.extend, List.map_append]
    rfl
  have count : mid.chain.segments.length = (before.filterMap Clause.union?).length + 1 := by
    rw [Chain.segments, List.length_append, List.length_map, runBefore.length_closed,
      Draft.closed_of_start started, List.length_nil, Nat.zero_add]
    rfl
  have segments : e.chain.segments = mid.chain.segments ++ c.segments := by
    rw [goes.chain, Chain.segments_behind, place]
  have takesMain := takes.of_eq goes.columns goes.source
  obtain ⟨rest, own⟩ := takesMain.text_eq_append
  obtain ⟨tail, first⟩ := c.text_eq_main
  refine ⟨c.main, ?_, takesMain, mid.chain, rest, tail ++ Select.tailText sorting q.limit ++ ";", ?_, own, ?_⟩
  · show e.chain.segments[_]? = _
    rw [segments, ← count, List.getElem?_append_right (Nat.le_refl _), Nat.sub_self, c.head_segments]
  · show _ = e.chain.segments.take _
    rw [segments, ← count, List.take_left]
  · show e.chain.text ++ Select.tailText sorting q.limit ++ ";" = _
    rw [goes.chain, Chain.text_behind, extended, Chain.closedText_extend, first, union_text]
    simp only [String.append_assoc]

-- The columns come from the first union, and pass through the second one with another qualifier.
def Query.handedDown : Query where
  table := "items"
  columns := ["id"]
  clauses := [
    .union { table := "prices", columns := some ["code", "m.\"a.b\"", "*"] },
    .join { table := "marks", tableAlias := some "m" },
    .conditions [⟨"code", .isNotNull⟩],
    .union { kind := some .all, table := "archive" },
    .join { table := "old" },
    .union { table := "spare", tableAlias := some "\"s.1\"", columnsAlias := some "x" },
    .conditions [⟨"code", .isNotNull⟩]]

theorem columns_inherited_handedDown :
    let left :=
      "SELECT i0.id FROM items AS i0" ++
        "\nUNION SELECT p1.code,m.\"a.b\",p1.* FROM prices AS p1\nJOIN marks AS m\n WHERE m.code IS NOT NULL" ++
        "\nUNION ALL SELECT a2.code,a2.\"a.b\",a2.* FROM archive AS a2\nJOIN old AS o3"
    let own := "SELECT x.code,x.\"a.b\",x.* FROM spare AS \"s.1\"\n WHERE \"s.1\".code IS NOT NULL"
    ∃ s segment, Query.handedDown.build.outcome = .ok s ∧ s.select.chain.segments[3]? = some segment ∧
      segment.source.name.text = "\"s.1\"" ∧
      segment.columns.map Identifier.text = ["x.code", "x.\"a.b\"", "x.*"] ∧
      segment.text = own ∧ s.text = left ++ "\nUNION " ++ own ++ ";" := by
  intro left own
  have texts : Query.handedDown.build.outcome.toOption.map
      (fun s => (s.select.chain.segments[3]?.map Segment.text, s.text)) =
        some (some own, left ++ "\nUNION " ++ own ++ ";") := by
    decide +kernel
  obtain ⟨s, h, shown⟩ := exists_ok_of_toOption texts
  obtain ⟨ownText, text⟩ := Prod.mk.inj shown
  have split : Query.handedDown.clauses = Query.handedDown.clauses.take 5 ++
      .union { table := "spare", tableAlias := some "\"s.1\"", columnsAlias := some "x" } ::
        [.conditions [⟨"code", .isNotNull⟩]] := rfl
  obtain ⟨segment, third, takes, _⟩ := columns_inherited split rfl h
  have unions : ((Query.handedDown.clauses.take 5).filterMap Clause.union?).length + 1 = 3 := rfl
  rw [unions] at third
  rw [third] at ownText
  refine ⟨s, segment, h, third, takes.tableAlias _ rfl, takes.columns.trans ?_, Option.some.inj ownText, text⟩
  show requalified "x" (columnsAfter ["id"] (Query.handedDown.clauses.take 5)) = _
  decide +kernel

end BoundSelect
