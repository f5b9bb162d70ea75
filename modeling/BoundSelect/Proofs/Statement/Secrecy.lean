import BoundSelect.Proofs.Select.Masked
import BoundSelect.Statement

set_option autoImplicit false

namespace BoundSelect

theorem Term.text_masked (t : Term) : t.masked.text = t.text := by
  cases t with
  | slots ss =>
    rw [masked, text, List.map_map]
    rfl
  | _ => rfl

theorem Test.text_masked (t : Test) : t.masked.text = t.text := by
  rw [text, masked, Term.text_masked]
  rfl

theorem conjunction_masked (tests : List Test) :
    conjunction (tests.map Test.masked) = conjunction tests := by
  rw [conjunction, List.map_map]
  exact congrArg " AND ".intercalate (List.map_congr_left fun t _ => t.text_masked)

theorem JoinedSource.text_masked (j : JoinedSource) : j.masked.text = j.text := by
  rw [text, masked, conjunction_masked, List.isEmpty_map]
  rfl

theorem Segment.text_masked (s : Segment) : s.masked.text = s.text := by
  have joins : s.masked.joins.map JoinedSource.text = s.joins.map JoinedSource.text := by
    rw [masked, List.map_map]
    exact List.map_congr_left fun j _ => j.text_masked
  have filters : whereText s.masked.filters = whereText s.filters := by
    rw [whereText, masked, conjunction_masked, List.isEmpty_map]
    rfl
  rw [text, joins, filters]
  rfl

theorem Chain.text_masked (c : Chain) : c.masked.text = c.text := by
  refine congrArg₂ (fun parts last => String.join parts ++ last) ?_ c.last.text_masked
  rw [masked, List.map_map]
  exact List.map_congr_left fun s _ => congrArg (· ++ unionText s.2) s.1.text_masked

theorem Select.text_masked (s : Select) : s.masked.text = s.text := by
  rw [text, masked, Chain.text_masked]
  rfl

theorem Term.allSlots_masked (t : Term) : t.masked.allSlots = t.allSlots.map Slot.masked := by
  cases t <;> rfl

theorem Segment.slots_masked (s : Segment) :
    testSlots s.masked.tests = (testSlots s.tests).map Slot.masked := by
  simp [testSlots, tests, masked, JoinedSource.masked, Test.masked, Term.allSlots_masked,
    List.map_flatMap, List.flatMap_map, List.flatMap_assoc]

theorem Chain.slots_masked (c : Chain) : c.masked.slots = c.slots.map Slot.masked := by
  have segments : c.masked.segments = c.segments.map Segment.masked := by
    simp [segments, masked]
  rw [slots, segments, List.flatMap_map, slots, List.map_flatMap]
  exact List.flatMap_congr fun s _ => s.slots_masked

namespace Binds

def masked (b : Binds) : Binds := b.map fun _ _ => .null

theorem insert_masked (b : Binds) (k : String) (v : Value) :
    masked (b.insert k v) = b.masked.insert k .null := by
  refine Std.ExtTreeMap.ext_getElem? fun l => ?_
  simp only [masked, Std.ExtTreeMap.getElem?_map, Std.ExtTreeMap.getElem?_insert]
  split <;> rfl

theorem insertMany_masked (b : Binds) (slots : List Slot) :
    Std.ExtTreeMap.insertMany b.masked ((slots.map Slot.masked).map fun s => (s.key, s.value)) =
      masked (b.insertMany (slots.map fun s => (s.key, s.value))) := by
  induction slots generalizing b with
  | nil => rfl
  | cons s rest ih =>
    simp only [List.map_cons, Std.ExtTreeMap.insertMany_cons]
    rw [← ih, insert_masked]
    rfl

theorem ofSlots_masked (slots : List Slot) :
    ofSlots (slots.map Slot.masked) = (ofSlots slots).masked := by
  rw [ofSlots, ofSlots, Std.ExtTreeMap.ofList_eq_insertMany_empty,
    Std.ExtTreeMap.ofList_eq_insertMany_empty, ← insertMany_masked]
  rfl

end Binds

theorem Settings.reportStatement_masked (s : Settings) (kind : StatementKind) (table : String)
    (binds : Binds) (text : String) :
    s.reportStatement kind table binds.masked text = s.reportStatement kind table binds text := by
  unfold reportStatement
  rw [Binds.masked, Std.ExtTreeMap.size_map]

namespace Statement

-- All that can be seen of a statement but the values of its binds.
structure Shown where
  text : String
  table : Identifier
  tableAlias : Name
  columns : List String
  keys : List String

def shown (s : Statement) : Shown where
  text := s.text
  table := s.table
  tableAlias := s.tableAlias
  columns := s.columns
  keys := s.binds.keys

def masked (s : Statement) : Statement := { s with select := s.select.masked }

theorem text_masked (s : Statement) : s.masked.text = s.text :=
  congrArg (· ++ ";") s.select.text_masked

theorem source_masked (s : Statement) :
    s.masked.select.chain.main.source = s.select.chain.main.source := by
  rw [masked, Select.masked, Chain.main_masked]
  rfl

theorem binds_masked (s : Statement) : s.masked.binds = s.binds.masked := by
  rw [binds, masked, Select.masked, Chain.slots_masked, Binds.ofSlots_masked]
  rfl

theorem shown_masked (s : Statement) : s.masked.shown = s.shown := by
  have keys : s.masked.binds.keys = s.binds.keys := by
    rw [binds_masked, Binds.masked, Std.ExtTreeMap.keys_map]
  simp only [shown, text_masked, table, tableAlias, source_masked, keys]
  rfl

end Statement

namespace RecursiveStatement

structure Shown where
  text : String
  name : Name
  base : Statement.Shown
  keys : List String

def shown (s : RecursiveStatement) : Shown where
  text := s.text
  name := s.name
  base := s.base.shown
  keys := s.binds.keys

def masked (s : RecursiveStatement) : RecursiveStatement := { s with base := s.base.masked }

theorem text_masked (s : RecursiveStatement) : s.masked.text = s.text := by
  have columns : s.masked.columnsText = s.columnsText := by
    have main : s.masked.base.select.chain.main.columns = s.base.select.chain.main.columns := by
      rw [masked, Statement.masked, Select.masked, Chain.main_masked]
      rfl
    unfold columnsText columns?
    rw [main]
  have body : s.masked.base.body = s.base.body := s.base.select.text_masked
  have name : s.masked.name = s.name := rfl
  have tail : Select.tailText s.masked.sorting s.masked.limit = Select.tailText s.sorting s.limit := rfl
  unfold text
  rw [columns, body, name, tail]

theorem binds_masked (s : RecursiveStatement) : s.masked.binds = s.binds.masked := s.base.binds_masked

theorem shown_masked (s : RecursiveStatement) : s.masked.shown = s.shown := by
  have keys : s.masked.binds.keys = s.binds.keys := by
    rw [binds_masked, Binds.masked, Std.ExtTreeMap.keys_map]
  have base : s.masked.base.shown = s.base.shown := s.base.shown_masked
  simp only [shown, text_masked, base, keys]
  rfl

end RecursiveStatement

namespace Query

theorem fragment_masked (q : Query) : q.masked.fragment = Statement.masked <$> q.fragment := by
  simp only [fragment, select_masked, map_bind, bind_map_left, map_pure]
  rfl

theorem build_masked (q : Query) : q.masked.build = Statement.masked <$> q.build := by
  simp only [build, fragment_masked, map_bind, bind_map_left, map_pure]
  refine bind_congr fun s => ?_
  rw [Statement.binds_masked, Statement.text_masked, Statement.table, Statement.source_masked,
    Settings.reportStatement_masked]
  rfl

end Query

theorem RecursiveQuery.build_masked (q : RecursiveQuery) :
    q.masked.build = RecursiveStatement.masked <$> q.build := by
  have fragment : q.masked.body.fragment = Statement.masked <$> q.body.fragment :=
    q.body.fragment_masked
  have name : q.masked.name = q.name := rfl
  have ordered : (q.masked.body.orderBy.isSome || q.masked.body.limit.isSome) =
      (q.body.orderBy.isSome || q.body.limit.isSome) := rfl
  unfold build
  rw [fragment, name, ordered]
  cases blank : Text.isAllBlank q.name with
  | true => rfl
  | false =>
    cases given : q.body.orderBy.isSome || q.body.limit.isSome with
    | true =>
      simp only [Bool.false_eq_true, if_false, if_true, map_bind]
      rfl
    | false =>
      simp only [Bool.false_eq_true, if_false, map_bind, bind_map_left, map_pure]
      refine bind_congr fun name => bind_congr fun base => bind_congr fun sorting => ?_
      let s : RecursiveStatement := { name, base, sorting, limit := q.limit }
      have report : q.body.settings.reportStatement .recursive name.text s.masked.binds s.masked.text =
          q.body.settings.reportStatement .recursive name.text s.binds s.text := by
        rw [s.binds_masked, s.text_masked, Settings.reportStatement_masked]
      exact congrArg (· >>= fun _ => pure s.masked) report

theorem Query.build_eq_of_masked {q r : Query} (same : q.masked = r.masked) :
    Statement.shown <$> q.build = Statement.shown <$> r.build := by
  have shown (q : Query) : Statement.shown <$> q.build = Statement.shown <$> q.masked.build := by
    simp only [build_masked, Functor.map_map, Statement.shown_masked]
  rw [shown q, same, ← shown r]

theorem RecursiveQuery.build_eq_of_masked {q r : RecursiveQuery} (same : q.masked = r.masked) :
    RecursiveStatement.shown <$> q.build = RecursiveStatement.shown <$> r.build := by
  have shown (q : RecursiveQuery) :
      RecursiveStatement.shown <$> q.build = RecursiveStatement.shown <$> q.masked.build := by
    simp only [build_masked, Functor.map_map, RecursiveStatement.shown_masked]
  rw [shown q, same, ← shown r]

theorem values_unseen :
    (∀ q r : Query, q.masked = r.masked → q.build.events = r.build.events ∧
      Statement.shown <$> q.build.outcome = Statement.shown <$> r.build.outcome) ∧
    ∀ q r : RecursiveQuery, q.masked = r.masked → q.build.events = r.build.events ∧
      RecursiveStatement.shown <$> q.build.outcome = RecursiveStatement.shown <$> r.build.outcome := by
  constructor
  · intro q r same
    have shown := Query.build_eq_of_masked same
    rw [← Traced.events_map Statement.shown q.build, ← Traced.outcome_map, shown]
    exact ⟨Traced.events_map _ _, Traced.outcome_map _ _⟩
  · intro q r same
    have shown := RecursiveQuery.build_eq_of_masked same
    rw [← Traced.events_map RecursiveStatement.shown q.build, ← Traced.outcome_map, shown]
    exact ⟨Traced.events_map _ _, Traced.outcome_map _ _⟩

def Query.comparing (v : Value) : Query where
  table := "accounts"
  clauses := [
    .conditions [⟨"owner", .value .equal v⟩, ⟨"id", .column .less "limits.id"⟩],
    .join { table := "limits", on := [⟨"amount", .between v .null⟩] },
    .union { table := "closed" },
    .conditions [⟨"owner", .values .isIn [.null, v]⟩]]

theorem values_unseen_comparing :
    ((Query.comparing (.int 1)).build.outcome.toOption.map Statement.text = some
        ("SELECT a0.* FROM accounts AS a0\nJOIN limits AS l1 ON l1.amount BETWEEN :AAB0 AND :AAB1" ++
          "\n WHERE a0.owner = :AAA0 AND a0.id < limits.id" ++
          "\nUNION SELECT c2.* FROM closed AS c2\n WHERE c2.owner IN (:AAC0,:AAC1);") ∧
      Statement.shown <$> (Query.comparing (.int 1)).build.outcome =
        Statement.shown <$> (Query.comparing (.text "' OR TRUE --")).build.outcome) ∧
    (RecursiveQuery.mk (Query.comparing (.int 1)) "" none none).build.events =
      (RecursiveQuery.mk (Query.comparing (.text "' OR TRUE --")) "" none none).build.events := by
  have same : (Query.comparing (.int 1)).masked = (Query.comparing (.text "' OR TRUE --")).masked := rfl
  have sameBody : (RecursiveQuery.mk (Query.comparing (.int 1)) "" none none).masked =
      (RecursiveQuery.mk (Query.comparing (.text "' OR TRUE --")) "" none none).masked := rfl
  exact ⟨⟨by decide +kernel, (values_unseen.1 _ _ same).2⟩, (values_unseen.2 _ _ sameBody).1⟩

end BoundSelect
