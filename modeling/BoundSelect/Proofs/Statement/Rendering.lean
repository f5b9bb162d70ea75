import BoundSelect.Proofs.AliasPool.Search
import BoundSelect.Proofs.Select.WellFormed
import BoundSelect.Proofs.Statement.Reference

set_option autoImplicit false

namespace BoundSelect

open Outcome Text

namespace Reference

theorem column_text {i : Identifier} (h : i.WellFormed) (owner : Name) :
    column owner.text i.text = (i.qualify owner).text := by
  rw [column, h.isQualified_text, Identifier.text_qualify]

theorem texts_selected (owner : Name) (is : List Identifier) :
    (Draft.selected owner is).map Identifier.text =
      if is.isEmpty then [owner.text ++ ".*"] else is.map fun i => (i.qualify owner).text := by
  unfold Draft.selected
  split
  · rw [List.map_singleton, Identifier.text_cons_path owner { last := .star }, Identifier.text_last,
      String.append_assoc]
    rfl
  · rw [List.map_map]
    rfl

theorem columns_text {is : List Identifier} (h : ∀ i ∈ is, i.WellFormed) (owner : Name) :
    columns owner.text (is.map Identifier.text) = (Draft.selected owner is).map Identifier.text := by
  have texts : (is.map Identifier.text).map (column owner.text) = is.map fun i => (i.qualify owner).text := by
    rw [List.map_map]
    exact List.map_congr_left fun i hi => column_text (h i hi) owner
  rw [texts_selected, columns, List.isEmpty_map, texts]

theorem columnList_eq (owner : String) (names : List String) :
    columnList owner names = ",".intercalate (columns owner names) := by
  unfold columnList columns
  split
  · rw [String.intercalate_singleton]
  · rfl

theorem columnList_text {is : List Identifier} (h : ∀ i ∈ is, i.WellFormed) (owner : Name) :
    columnList owner.text (is.map Identifier.text) =
      ",".intercalate ((Draft.selected owner is).map Identifier.text) := by
  rw [columnList_eq, columns_text h]

theorem find_escape (cs : List Char) :
    (Name.escape cs).find? Char.isAlpha = cs.find? Char.isAlpha := by
  induction cs with
  | nil => rfl
  | cons c rest ih =>
    rw [Name.escape, List.flatMap_cons, List.find?_append, List.find?_cons]
    rw [Name.escape] at ih
    by_cases quote : c = '"'
    · subst quote
      have start : '"'.isAlpha = false := rfl
      simpa [start] using ih
    · cases alpha : c.isAlpha <;> simp [quote, alpha, ih]

theorem initial_text {i : Identifier} (h : i.WellFormed) : initial i.text = i.initial := by
  rw [initial, h.lastPart_text, Identifier.bare, Identifier.text_last]
  cases last : i.last with
  | name n =>
    cases n with
    | plain letters => simp [Identifier.initial, last, Part.text, Name.text]
    | quoted content =>
      have start : '"'.isAlpha = false := rfl
      rw [Part.text, Name.toList_quoted, List.find?_cons, start, List.find?_append, find_escape]
      simp [Identifier.initial, last, start]
  | star => simp [Identifier.initial, last, Part.text]

theorem leastFree_eq (letter : Char) (taken : List String) (next : Nat) :
    leastFree letter taken next = AliasPool.firstFree letter taken next := by
  obtain ⟨⟨later, free⟩, least⟩ := AliasPool.firstFree_isLeast letter taken next
  have reached := AliasPool.firstFree_le letter taken next
  have few := List.toFinset_card_le taken
  have found : (List.range' next (taken.length + 1)).find? (fun n => numbered letter n ∉ taken) =
      some (AliasPool.firstFree letter taken next) := by
    rw [List.find?_range'_eq_some]
    refine ⟨decide_eq_true free, List.mem_range'_1.2 ⟨later, by omega⟩, ?_⟩
    intro n since before
    have hit : numbered letter n ∈ taken := by
      by_contra missed
      have lower := least ⟨since, missed⟩
      omega
    simp [hit]
  rw [leastFree, found, Option.getD_some]

theorem chosen_eq {pool next : AliasPool} {explicit : Option String} {table : Identifier}
    {name : Name} (h : table.WellFormed) (named : pool.choose explicit table = .ok (name, next)) :
    chosen pool explicit table.text = (name.text, next) := by
  rcases AliasPool.choose_eq_ok_iff.1 named with ⟨text, rfl, read, rfl⟩ | ⟨rfl, made⟩
  · rw [chosen, (Name.parse_sound read).2]
  · rw [AliasPool.allocate, ← initial_text h] at made
    obtain ⟨rfl, rfl⟩ := Prod.mk.inj made
    simp only [chosen, leastFree_eq]
    rfl

theorem chosen_of_read {pool next : AliasPool} {explicit : Option String} {subject : Subject} {text : String}
    {table : Identifier} {name : Name} (read : Draft.parseTable subject text = .ok table)
    (named : pool.choose explicit table = .ok (name, next)) : chosen pool explicit text = (name.text, next) := by
  obtain ⟨fine, written⟩ := Draft.wellFormed_of_parseTable read
  rw [← written]
  exact chosen_eq fine named

theorem placeholder_eq (s : Slot) : placeholder s.tag s.index = s.placeholder := by
  simp only [placeholder, Slot.placeholder, Slot.key, String.append_assoc]

theorem placeholders_ofValues (tag : Nat) (vs : List Value) :
    (List.range vs.length).map (placeholder tag) = (Slot.ofValues tag vs).map Slot.placeholder := by
  have indices : (Slot.ofValues tag vs).map Slot.placeholder =
      (vs.zipIdx.map Prod.snd).map (placeholder tag) := by
    rw [Slot.ofValues, List.map_map, List.map_map]
    exact List.map_congr_left fun x _ => (placeholder_eq ⟨tag, x.2, x.1⟩).symm
  rw [indices, List.zipIdx_map_snd, List.range_eq_range']

theorem boundOperand_text {o : Operator} {operand : Operand} {tag : Nat} {t : Term}
    (bound : Predicate.Bound tag o operand t) : boundOperand o operand tag = t.text := by
  cases bound with
  | nothing test => cases o <;> first | rfl | cases test
  | one v compares =>
    have shown : boundOperand o (.value v) tag = " " ++ placeholder tag 0 := by
      cases o <;> first | rfl | cases compares
    rw [shown, Term.text, ← placeholder_eq]
  | some vs listed =>
    rw [Term.text, ← placeholders_ofValues]
    rcases listed with rfl | rfl <;> rfl
  | two low high =>
    rw [Term.text, ← placeholder_eq, ← placeholder_eq]
    rfl

theorem operand_text {p : Predicate} {tag : Nat} {t : Term} (h : p.term tag = .ok t) :
    operand p tag = t.text := by
  unfold Predicate.term at h
  split at h
  next bound =>
    have made := Predicate.bound_of_boundTerm (mapError_eq_ok_iff.1 h)
    rw [operand, if_pos bound, boundOperand_text made]
  next unbound =>
    obtain rfl := Except.ok.inj h
    rw [operand, if_neg unbound]

theorem test_text {c : Condition} {owner : Name} {tag : Nat} {t : Test}
    (h : c.resolve owner tag = .ok t) : t.text = test owner.text tag c := by
  obtain ⟨column, term, read, made, rfl⟩ := Condition.resolve_eq_ok_iff.1 h
  obtain ⟨fine, written⟩ := Identifier.parseColumn_sound read
  rw [test, ← written, column_text fine, operand_text made, Test.text]

theorem tests_text {cs : Conditions} {owner : Name} {tag : Nat} {ts : List Test}
    (h : cs.resolve owner tag = .ok ts) : ts.map Test.text = tests owner.text tag cs :=
  map_eq_of_mapM (fun _ _ => test_text) h

theorem isEmpty_tests (owner : String) (tag : Nat) (cs : Conditions) :
    (tests owner tag cs).isEmpty = cs.isEmpty := by
  cases cs <;> rfl

theorem union_text (kind : Option UnionKind) : union kind = unionText kind := by
  rcases kind with _ | _ | _ <;> rfl

theorem direction_text (d : Direction) : direction d = " " ++ d.text := by
  cases d <;> rfl

theorem limit_eq : limit = Limit.text := by
  funext l
  unfold limit Limit.text
  cases l.offset with
  | none => exact String.append_empty
  | some m =>
    by_cases zero : m = 0
    · have least : ¬m > 0 := by simp [zero]
      simp only [offset, if_pos zero, if_neg least]
      exact String.append_empty
    · have positive : m > 0 := UInt64.pos_iff_ne_zero.2 zero
      simp only [offset, if_neg zero, if_pos positive]
      exact String.append_assoc.symm

theorem side_text {settings : Settings} {j : Join} {s : Option Side}
    (h : (Draft.resolveSide settings j).outcome = .ok s) : side j.side = JoinedSource.sideText s := by
  unfold Draft.resolveSide at h
  split at h
  next none =>
    obtain rfl := Except.ok.inj h
    rw [none]
    rfl
  next known =>
    obtain rfl := Except.ok.inj h
    rw [known]
    rfl
  next unrecognized =>
    split at h
    · cases h
    · obtain rfl := Except.ok.inj h
      rw [unrecognized]
      rfl

theorem condition_text (filters : List Test) :
    condition (filters.map Test.text) = Segment.whereText filters := by
  rw [condition, Segment.whereText, List.isEmpty_map]
  rfl

theorem joined_text {settings : Settings} {d : Draft} {j : Join} {table : Identifier} {name : Name}
    {s : Option Side} {on : List Test} (read : Draft.parseTable .joinTable j.table = .ok table)
    (sided : (Draft.resolveSide settings j).outcome = .ok s)
    (resolved : j.on.resolve name d.nextTag = .ok on) :
    joined { clause := .join j, owner := name.text, tag := d.nextTag } =
      JoinedSource.text { side := s, source := { table, name }, on } := by
  have empty : on.isEmpty = j.on.isEmpty := by
    rw [← isEmpty_tests name.text d.nextTag j.on, ← tests_text resolved, List.isEmpty_map]
  simp only [joined, JoinedSource.text, Source.text, side_text sided, ← tests_text resolved,
    (Draft.wellFormed_of_parseTable read).2, conjunction, empty, String.append_assoc]

section

variable {owner name : String} {pool next : AliasPool} {tag : Nat} {rest : List Clause}

theorem label_join {j : Join} (h : chosen pool j.tableAlias j.table = (name, next)) :
    label owner pool tag (.join j :: rest) =
      ⟨.join j, name, tag⟩ :: label name next (tag + j.on.bindCount) rest := by
  simp [label, named, h, Clause.tested]

theorem label_union {u : Union} (h : chosen pool u.tableAlias u.table = (name, next)) :
    label owner pool tag (.union u :: rest) = ⟨.union u, name, tag⟩ :: label name next tag rest := by
  simp [label, named, h, Clause.tested, Conditions.bindCount]

end

section

variable (owner : String) (tag : Nat) (rest : List Labelled) (left : List String)

theorem own_conditions (cs : Conditions) :
    own (⟨.conditions cs, owner, tag⟩ :: rest) = ⟨.conditions cs, owner, tag⟩ :: own rest := rfl

theorem own_join (j : Join) :
    own (⟨.join j, owner, tag⟩ :: rest) = ⟨.join j, owner, tag⟩ :: own rest := rfl

theorem own_union (u : Union) : own (⟨.union u, owner, tag⟩ :: rest) = [] := rfl

theorem unions_conditions (cs : Conditions) :
    unions left (⟨.conditions cs, owner, tag⟩ :: rest) = unions left rest := rfl

theorem unions_join (j : Join) : unions left (⟨.join j, owner, tag⟩ :: rest) = unions left rest := rfl

theorem unions_union (u : Union) :
    unions left (⟨.union u, owner, tag⟩ :: rest) =
      union u.kind ++
        selectText (columnList (u.columnsAlias.getD owner) (taken u left)) u.table owner (own rest) ++
        unions (taken u left) rest := rfl

end

end Reference

open Reference

def Segment.openText (s : Segment) : String :=
  "SELECT " ++ ",".intercalate (s.columns.map Identifier.text) ++ " FROM " ++ s.source.text ++
    String.join (s.joins.map JoinedSource.text)

def Chain.openText (c : Chain) : String :=
  String.join (c.closed.map fun (segment, kind) => segment.text ++ unionText kind) ++ c.last.openText

namespace Chain

theorem text_eq (c : Chain) :
    c.text = c.openText ++ condition (c.last.filters.map Test.text) := by
  rw [condition_text]
  exact String.append_assoc.symm

theorem openText_last (s : Segment) : openText { last := s } = s.openText := String.empty_append

theorem openText_join (c : Chain) (j : JoinedSource) :
    openText { c with last.joins := c.last.joins ++ [j] } = c.openText ++ j.text := by
  simp [openText, Segment.openText, String.append_assoc]

theorem openText_extend (c : Chain) (kind : Option UnionKind) (next : Segment) :
    (c.extend kind next).openText = c.text ++ unionText kind ++ next.openText := by
  simp [openText, extend, text, String.append_assoc]

end Chain

-- The columns of the last SELECT as they were before they got their qualifier.
def Draft.Lists (d : Draft) (columns : List String) : Prop :=
  ∃ qualifier is, d.chain.last.columns = selected qualifier is ∧ (∀ i ∈ is, i.WellFormed) ∧
    is.map Identifier.text = columns

namespace Draft

theorem selected_map_bare (a b : Name) (is : List Identifier) :
    selected a ((selected b is).map Identifier.bare) = selected a (is.map Identifier.bare) := by
  cases is with
  | nil => rfl
  | cons i rest => simp [selected, Function.comp_def]

theorem parseColumns_text {columns : List String} {is : List Identifier}
    (h : parseColumns columns = .ok is) : is.map Identifier.text = columns := by
  rw [map_eq_of_mapM (fun _ _ read => (Identifier.parseColumn_sound (lift_eq_ok_iff.1 read)).2) h]
  exact List.map_id columns

theorem Lists.union {d : Draft} {left : List String} {u : Union} {columns : List Identifier}
    (lists : d.Lists left) (listed : unionColumns u d.chain.last.columns = .ok columns) :
    ∃ is, (∀ i ∈ is, i.WellFormed) ∧ is.map Identifier.text = taken u left ∧
      ∀ q, selected q columns = selected q is := by
  obtain ⟨qualifier, is, same, fine, texts⟩ := lists
  unfold unionColumns at listed
  unfold taken
  split at listed
  next own given =>
    rw [given]
    exact ⟨columns, wellFormed_of_parseColumns listed, parseColumns_text listed, fun _ => rfl⟩
  next none =>
    obtain rfl := pure_eq_ok_iff.1 listed
    refine ⟨is.map Identifier.bare, ?_, ?_, ?_⟩
    · intro c hc
      obtain ⟨i, hi, rfl⟩ := List.mem_map.1 hc
      exact (fine i hi).bare
    · rw [none, Option.getD_none, ← texts, List.map_map, List.map_map]
      exact List.map_congr_left fun i hi => (fine i hi).lastPart_text.symm
    · intro q
      rw [same, selected_map_bare]

theorem qualifier_text {u : Union} {name qualifier : Name}
    (h : unionQualifier u name = .ok qualifier) :
    u.columnsAlias.getD name.text = qualifier.text := by
  unfold unionQualifier at h
  split at h
  next text given =>
    rw [given, Option.getD_some, (Name.parse_sound (lift_eq_ok_iff.1 h)).2]
  next none => rw [none, Option.getD_none, pure_eq_ok_iff.1 h]

theorem selectText_eq {qualifier name : Name} {table : Identifier} {is : List Identifier}
    (fine : ∀ i ∈ is, i.WellFormed) (own : List Labelled) :
    selectText (columnList qualifier.text (is.map Identifier.text)) table.text name.text own =
      Segment.openText { columns := selected qualifier is, source := { table, name } } ++
        String.join (own.map joined) ++ condition (own.flatMap filters) := by
  simp only [selectText, Segment.openText, columnList_text fine, Source.text, List.map_nil,
    String.join_nil, String.append_empty, String.append_assoc]

theorem run_text {settings : Settings} {d e : Draft} {clauses : List Clause} {left : List String}
    (run : Run settings d clauses e) (lists : d.Lists left) :
    let labelled := label d.owner.text d.pool d.nextTag clauses
    e.chain.text = d.chain.openText ++ String.join ((own labelled).map joined) ++
      condition (d.chain.last.filters.map Test.text ++ (own labelled).flatMap filters) ++
      unions left labelled := by
  intro labelled
  induction clauses generalizing d left with
  | nil =>
    rw [← run_nil_iff.1 run, Chain.text_eq]
    simp [labelled, label, own, unions, String.join_nil]
  | cons c rest ih =>
    obtain ⟨next, step, others⟩ := run_cons_iff.1 run
    cases step with
    | @conditions cs tests resolved =>
      have first : labelled = ⟨.conditions cs, d.owner.text, d.nextTag⟩ ::
          label d.owner.text d.pool (d.nextTag + cs.bindCount) rest := rfl
      -- The filters are deferred: they join those so far, whatever joins still come before them.
      rw [ih others lists, first, own_conditions, unions_conditions]
      simp only [List.map_cons, List.flatMap_cons, joined, filters, ← tests_text resolved,
        String.join_cons, String.empty_append, List.map_append, List.append_assoc]
      rfl
    | @join j table name pool side on read named sided resolved =>
      have first : labelled = ⟨.join j, name.text, d.nextTag⟩ ::
          label name.text pool (d.nextTag + j.on.bindCount) rest :=
        label_join (chosen_of_read read named)
      rw [ih others lists, first, own_join, unions_join]
      simp only [List.map_cons, List.flatMap_cons, filters, joined_text read sided resolved,
        String.join_cons, List.nil_append]
      rw [Chain.openText_join d.chain]
      simp only [String.append_assoc]
    | @union u table name qualifier pool columns read named qualified listed =>
      -- The SELECT so far is closed as it stands, and the rest of the run starts from an empty one.
      have fine := wellFormed_of_parseTable read
      have first : labelled = ⟨.union u, name.text, d.nextTag⟩ ::
          label name.text pool d.nextTag rest :=
        label_union (chosen_of_read read named)
      obtain ⟨is, fineColumns, texts, same⟩ := lists.union listed
      rw [ih others ⟨_, is, same _, fineColumns, texts⟩, first, own_union, unions_union,
        qualifier_text qualified, ← texts, ← fine.2, selectText_eq fineColumns, ← same]
      rw [Chain.openText_extend, Chain.text_eq, union_text]
      simp only [List.map_nil, List.flatMap_nil, List.append_nil, String.join_nil,
        String.append_empty, String.append_assoc]
      rfl

theorem chosen_start {q : Query} {table : Identifier} {name : Name} {pool : AliasPool}
    (fine : table.WellFormed)
    (named : (AliasPool.ofAliases (q.clauses.filterMap Clause.tableAlias?)).choose q.tableAlias table =
      .ok (name, pool)) :
    chosen (reserved q) q.tableAlias table.text =
      (name.text, if q.tableAlias.isSome then pool.reserve name else pool) := by
  cases given : q.tableAlias with
  | none =>
    rw [given] at named
    rw [reserved, given]
    exact chosen_eq fine named
  | some text =>
    rw [given] at named
    obtain ⟨_, same, read, rfl⟩ | ⟨none, -⟩ := AliasPool.choose_eq_ok_iff.1 named
    · obtain rfl := Option.some.inj same
      rw [chosen, reserved, given, Option.toList_some, List.singleton_append,
        AliasPool.ofAliases_cons read, (Name.parse_sound read).2]
      rfl
    · cases none

end Draft

theorem OrderBy.text_of_resolved {o : Option OrderBy} {qualify : Identifier → Identifier}
    {spell : OrderBy → String} {sorting : Option Sorting}
    (spelled : ∀ (o : OrderBy) (column : Identifier), Identifier.parseColumn o.column = .ok column →
      Sorting.text { column := qualify column, direction := o.direction } = spell o)
    (h : resolveGiven o qualify = .ok sorting) :
    (sorting.map Sorting.text).getD "" = (o.map spell).getD "" := by
  cases o with
  | none =>
    rw [← pure_eq_ok_iff.1 h]
    rfl
  | some o =>
    obtain ⟨s, resolved, rfl⟩ := map_eq_ok_iff.1 h
    obtain ⟨column, read, rfl⟩ := resolve_eq_ok_iff.1 resolved
    exact spelled o column read

theorem OrderBy.text_of_resolveGiven {o : Option OrderBy} {owner : Name} {sorting : Option Sorting}
    (h : resolveGiven o (Identifier.qualify owner) = .ok sorting) :
    (sorting.map Sorting.text).getD "" = (o.map (order owner.text)).getD "" := by
  apply text_of_resolved _ h
  intro o column read
  obtain ⟨fine, written⟩ := Identifier.parseColumn_sound read
  simp only [Sorting.text, order, direction_text, ← written, column_text fine, String.append_assoc]

theorem text_eq_reference {q : Query} {s : Statement} (h : q.build.outcome = .ok s) :
    s.text = q.reference := by
  obtain ⟨select, selected, rfl⟩ := Query.fragment_eq_ok_iff.1 (Query.build_eq_ok_iff.1 h)
  obtain ⟨start, d, sorting, started, run, sorted, rfl⟩ := Query.select_eq_ok_iff.1 selected
  obtain ⟨table, name, pool, columns, read, named, listed, rfl⟩ := Draft.start_eq_ok_iff.1 started
  obtain ⟨fineTable, writtenTable⟩ := Draft.wellFormed_of_parseTable read
  have fine := Draft.wellFormed_of_parseColumns listed
  have written := Draft.parseColumns_text listed
  have main : d.chain.main.source = { table, name } := run.main.1
  have chain := Draft.run_text run ⟨name, columns, rfl, fine, written⟩
  rw [main] at sorted
  have chosen := Draft.chosen_start fineTable named
  rw [writtenTable] at chosen
  simp only [Query.reference, chosen]
  rw [← written, ← writtenTable, Draft.selectText_eq fine]
  simp only [Statement.text, Statement.body, Select.text, Select.tailText, chain, limit_eq,
    OrderBy.text_of_resolveGiven sorted, Chain.openText_last, List.map_nil, List.nil_append,
    String.append_assoc, written]

-- Two numbers are passed over, one for an alias in capitals and one for an alias in quotes.
def Query.interleaved : Query where
  table := "sales.orders"
  columns := ["id", "\"unit.price\"", "m0.name"]
  clauses := [
    .conditions [⟨"id", .between (.int 1) (.int 9)⟩],
    .join {
      table := "markets"
      tableAlias := some "m0"
      side := some (.known .left)
      on := [⟨"id", .column .equal "o0.market"⟩] },
    .conditions [⟨"name", .value .notEqual .null⟩, ⟨"o0.gone", .isNull⟩],
    .union { kind := some .all, table := "archive" },
    .conditions [⟨"id", .values .isIn [.int 1, .int 2]⟩],
    .union { kind := some .distinct, table := "\"9\"", columns := some [], columnsAlias := some "x" },
    .join { table := "old", tableAlias := some "A1", side := some (.unrecognized "CROSS") },
    .join { table := "older", tableAlias := some "\"t3\"", side := some (.known .fullOuter) }]
  orderBy := some { column := "id", direction := .descending }
  limit := some { limit := 10, offset := some 20 }

theorem text_eq_reference_interleaved :
    ∃ s, Query.interleaved.build.outcome = .ok s ∧ s.text =
      "SELECT o0.id,o0.\"unit.price\",m0.name FROM sales.orders AS o0" ++
        "\nLEFT JOIN markets AS m0 ON m0.id = o0.market" ++
        "\n WHERE o0.id BETWEEN :AAA0 AND :AAA1 AND m0.name <> :AAB0 AND o0.gone IS NULL" ++
        "\nUNION ALL SELECT a2.id,a2.\"unit.price\",a2.name FROM archive AS a2" ++
        "\n WHERE a2.id IN (:AAC0,:AAC1)" ++
        "\nUNION DISTINCT SELECT x.* FROM \"9\" AS t4" ++
        "\nJOIN old AS A1\nFULL OUTER JOIN older AS \"t3\" ORDER BY o0.id DESC LIMIT 10 OFFSET 20;" := by
  have built : Query.interleaved.build.outcome.isOk := by decide +kernel
  obtain ⟨s, h⟩ := isOk_iff.1 built
  refine ⟨s, h, (text_eq_reference h).trans ?_⟩
  decide +kernel

end BoundSelect
