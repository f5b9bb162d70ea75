import BoundSelect.Proofs.Select.Checks
import BoundSelect.Proofs.Select.Pieces
import BoundSelect.Proofs.Statement.Rendering

set_option autoImplicit false

namespace BoundSelect

open Outcome Text

-- The body counts as one check: it fails as it would alone.
inductive RecursiveCheck
  | own (c : Check)
  | unordered (q : Query)
  | built (q : Query)

namespace RecursiveCheck

def Passes : RecursiveCheck → Prop
  | own c => c.Passes
  | unordered q => q.orderBy = none ∧ q.limit = none
  | built q => ∃ s, q.build.outcome = .ok s

inductive Fails : RecursiveCheck → Fault → Prop
  | own {c : Check} {f : Fault} (fails : c.Fails f) : Fails (.own c) f
  | unordered {q : Query} (ordered : ¬(q.orderBy = none ∧ q.limit = none)) :
      Fails (.unordered q) .orderedBody
  | built {q : Query} {f : Fault} (failed : q.build.outcome = .error f) : Fails (.built q) f

def fault? : RecursiveCheck → Option Fault
  | own c => c.fault?
  | unordered q => if q.orderBy.isSome || q.limit.isSome then some .orderedBody else none
  | built q => Outcome.fault? q.build.outcome

theorem fault?_eq_none_iff {c : RecursiveCheck} : c.fault? = none ↔ c.Passes := by
  cases c with
  | own c => exact Check.fault?_eq_none_iff
  | unordered q => simp [fault?, Passes]
  | built q => exact Outcome.exists_ok_iff.symm

theorem fault?_eq_some_iff {c : RecursiveCheck} {f : Fault} : c.fault? = some f ↔ c.Fails f := by
  constructor
  · intro found
    cases c with
    | own c => exact .own (Check.fault?_eq_some_iff.1 found)
    | unordered q =>
      simp only [fault?, Option.ite_none_right_eq_some, Option.some.injEq] at found
      obtain ⟨ordered, rfl⟩ := found
      refine .unordered ?_
      rintro ⟨noOrder, noLimit⟩
      simp [noOrder, noLimit] at ordered
    | built q => exact .built (Outcome.eq_error_iff.2 found)
  · intro fails
    cases fails with
    | own fails => exact Check.fault?_eq_some_iff.2 fails
    | @unordered q ordered =>
      have some : q.orderBy.isSome || q.limit.isSome := by
        by_contra none
        simp at none
        exact ordered none
      rw [fault?, if_pos some]
    | built failed => exact Outcome.eq_error_iff.1 failed

end RecursiveCheck

namespace RecursiveQuery

def checks (r : RecursiveQuery) : List RecursiveCheck :=
  [.own (.given .recursionName r.name), .own (.name r.name), .unordered r.body, .built r.body] ++
    r.orderBy.toList.map fun o => .own (.column o.column)

def refuse (wrong : Bool) (f : Fault) : Except Fault Unit := if wrong then .error f else .ok ()

theorem fault?_refuse (wrong : Bool) (f : Fault) :
    Outcome.fault? (refuse wrong f) = if wrong then some f else none := by
  cases wrong <;> rfl

theorem outcome_build (r : RecursiveQuery) :
    r.build.outcome = (do
      refuse (Text.isAllBlank r.name) (.unspecified .recursionName)
      let name ← (Name.parse r.name : Except Fault Name)
      refuse (r.body.orderBy.isSome || r.body.limit.isSome) .orderedBody
      let base ← r.body.build.outcome
      let sorting ← OrderBy.resolveGiven r.orderBy id
      return { name, base, sorting, limit := r.limit }) := by
  rw [← outcome_finished, finished, r.body.outcome_build]
  cases blank : Text.isAllBlank r.name <;>
    cases ordered : r.body.orderBy.isSome || r.body.limit.isSome <;>
    simp only [refuse, Bool.false_eq_true, if_false, if_true, Traced.outcome_bind,
      Traced.outcome_lift, Traced.outcome_pure, Traced.outcome_fail] <;>
    rfl

theorem checked_build (r : RecursiveQuery) : FirstFault RecursiveCheck.fault? r.checks r.build.outcome := by
  have given : FirstFault RecursiveCheck.fault? [.own (.given .recursionName r.name)]
      (refuse (Text.isAllBlank r.name) (.unspecified .recursionName)) :=
    .one (fault?_refuse _ _)
  have name : FirstFault RecursiveCheck.fault? [.own (.name r.name)]
      (liftM (Name.parse r.name) : Except Fault Name) :=
    .one (fault?_mapError _ _)
  have unordered : FirstFault RecursiveCheck.fault? [.unordered r.body]
      (refuse (r.body.orderBy.isSome || r.body.limit.isSome) .orderedBody) :=
    .one (fault?_refuse _ _)
  have built : FirstFault RecursiveCheck.fault? [.built r.body] r.body.build.outcome := .one rfl
  have order : FirstFault RecursiveCheck.fault? (r.orderBy.toList.map fun o => .own (.column o.column))
      (OrderBy.resolveGiven r.orderBy id) := by
    have column := OrderBy.checked_resolveGiven r.orderBy id
    have own : ∀ c, RecursiveCheck.fault? (.own c) = c.fault? := fun _ => rfl
    have ordered := column.map_items own
    rwa [List.map_map] at ordered
  rw [outcome_build]
  refine given.bind fun _ => ?_
  refine name.bind fun name => ?_
  refine unordered.bind fun _ => ?_
  refine built.bind fun base => ?_
  exact order.bind_pure _

def columnList (r : RecursiveQuery) : String :=
  if r.body.columns = [] ∨ "*" ∈ r.body.columns.map lastPart then ""
  else " (" ++ ",".intercalate (r.body.columns.map lastPart) ++ ")"

def order (o : OrderBy) : String := " ORDER BY " ++ o.column ++ Reference.direction o.direction

def wrap (r : RecursiveQuery) (body : String) : String :=
  "WITH RECURSIVE " ++ r.name ++ r.columnList ++ "\n  AS (" ++ body ++ ")\nSELECT * FROM " ++ r.name ++
    (r.orderBy.map order).getD "" ++ (r.limit.map Reference.limit).getD "" ++ ";"

end RecursiveQuery

structure RecursiveStatement.Wraps (s : RecursiveStatement) (body : Statement) (r : RecursiveQuery) :
    Prop where
  base : s.base = body
  terminated : s.base.body ++ ";" = body.text
  binds : s.binds = body.binds
  text : s.text = r.wrap s.base.body

theorem Query.main_columns_of_select {q : Query} {s : Select} (h : q.select.outcome = .ok s) :
    ∃ name columns, Draft.parseColumns q.columns = .ok columns ∧
      s.chain.main.columns = Draft.selected name columns := by
  obtain ⟨start, d, sorting, started, run, -, rfl⟩ := select_eq_ok_iff.1 h
  obtain ⟨table, name, pool, columns, -, -, listed, rfl⟩ := Draft.start_eq_ok_iff.1 started
  exact ⟨name, columns, listed, run.main.2⟩

theorem Part.WellFormed.text_eq_star_iff {p : Part} (h : p.WellFormed) : p.text = "*" ↔ p = .star := by
  cases p with
  | star => exact ⟨fun _ => rfl, fun _ => rfl⟩
  | name n =>
    refine ⟨fun same => ?_, nofun⟩
    have spelled : n.text.toList = ['*'] := congrArg String.toList same
    cases n with
    | plain letters =>
      obtain ⟨c, rest, start, fits, -⟩ := h
      obtain rfl : c = '*' := (List.cons.inj (start.symm.trans spelled)).1
      cases fits
    | quoted content =>
      rw [Name.toList_quoted] at spelled
      cases (List.cons.inj spelled).1

theorem Identifier.WellFormed.lastPart_eq_star_iff {i : Identifier} (h : i.WellFormed) :
    lastPart i.text = "*" ↔ i.last = .star := by
  rw [h.lastPart_text, Identifier.bare, Identifier.text_last]
  exact Part.WellFormed.text_eq_star_iff h.2

theorem Identifier.last_qualify (owner : Name) (i : Identifier) : (i.qualify owner).last = i.last := by
  unfold qualify
  split <;> rfl

namespace RecursiveStatement

def Unnamed (columns : List Identifier) : Prop := columns = [] ∨ ∃ i ∈ columns, i.last = .star

variable {s : RecursiveStatement} {owner : Name} {columns : List Identifier}

theorem columns_of_unnamed (head : s.base.select.chain.main.columns = Draft.selected owner columns)
    (unnamed : Unnamed columns) : s.columns? = none := by
  have star : ∃ i ∈ Draft.selected owner columns, i.last = .star := by
    rcases unnamed with rfl | ⟨i, hi, star⟩
    · exact ⟨{ path := [owner], last := .star }, List.mem_singleton_self _, rfl⟩
    · have filled : ¬columns.isEmpty := by simp [List.ne_nil_of_mem hi]
      rw [Draft.selected, if_neg filled]
      refine ⟨i.qualify owner, List.mem_map_of_mem hi, ?_⟩
      rw [Identifier.last_qualify, star]
  obtain ⟨i, hi, star⟩ := star
  rw [columns?, head]
  apply if_pos
  exact List.any_eq_true.2 ⟨i.bare, List.mem_map_of_mem hi, decide_eq_true star⟩

theorem columns_of_named (head : s.base.select.chain.main.columns = Draft.selected owner columns)
    (named : ¬Unnamed columns) : s.columns? = some (columns.map Identifier.bare) := by
  rw [Unnamed, not_or] at named
  have bare : (Draft.selected owner columns).map Identifier.bare = columns.map Identifier.bare := by
    rw [Draft.selected, if_neg (by simpa using named.1), List.map_map]
    exact List.map_congr_left fun i _ => Identifier.bare_qualify owner i
  refine columns_eq_some_iff.2 ⟨?_, by rw [head, bare]⟩
  intro c hc star
  rw [head] at hc
  have known : c.bare ∈ columns.map Identifier.bare := bare ▸ List.mem_map_of_mem hc
  obtain ⟨i, hi, same⟩ := List.mem_map.1 known
  exact named.2 ⟨i, hi, (congrArg Identifier.last same).trans star⟩

theorem columnsText_eq {r : RecursiveQuery} (h : r.body.fragment.outcome = .ok s.base) :
    s.columnsText = r.columnList := by
  obtain ⟨select, selected, base⟩ := Query.fragment_eq_ok_iff.1 h
  obtain ⟨owner, columns, listed, main⟩ := Query.main_columns_of_select selected
  have fine := Draft.wellFormed_of_parseColumns listed
  have written := Draft.parseColumns_text listed
  have head : s.base.select.chain.main.columns = Draft.selected owner columns := by rw [← base, main]
  have bare : r.body.columns.map lastPart = (columns.map Identifier.bare).map Identifier.text := by
    rw [← written, List.map_map, List.map_map]
    exact List.map_congr_left fun i hi => (fine i hi).lastPart_text
  have none : r.body.columns = [] ↔ columns = [] := by rw [← written, List.map_eq_nil_iff]
  have star : "*" ∈ r.body.columns.map lastPart ↔ ∃ i ∈ columns, i.last = .star := by
    rw [← written, List.map_map, List.mem_map]
    exact exists_congr fun i => and_congr_right fun hi => (fine i hi).lastPart_eq_star_iff
  have same : (r.body.columns = [] ∨ "*" ∈ r.body.columns.map lastPart) ↔ Unnamed columns :=
    or_congr none star
  by_cases unnamed : Unnamed columns
  · rw [columnsText, columns_of_unnamed head unnamed, RecursiveQuery.columnList, if_pos (same.2 unnamed)]
  · rw [columnsText, columns_of_named head unnamed, RecursiveQuery.columnList,
      if_neg (mt same.1 unnamed), bare]
    simp only [inParentheses, String.append_assoc]
    rfl

end RecursiveStatement

theorem OrderBy.text_of_resolveGiven_id {o : Option OrderBy} {sorting : Option Sorting}
    (h : resolveGiven o id = .ok sorting) :
    (sorting.map Sorting.text).getD "" = (o.map RecursiveQuery.order).getD "" := by
  apply text_of_resolved _ h
  intro o column read
  obtain ⟨-, written⟩ := Identifier.parseColumn_sound read
  simp only [Sorting.text, RecursiveQuery.order, Reference.direction_text, id, ← written, String.append_assoc]

theorem RecursiveQuery.wraps_of_build {r : RecursiveQuery} {s : RecursiveStatement}
    (h : r.build.outcome = .ok s) : ∃ body, r.body.build.outcome = .ok body ∧ s.Wraps body r := by
  obtain ⟨-, -, name, base, sorting, named, fragment, sorted, rfl⟩ := build_eq_ok_iff.1 h
  refine ⟨base, Query.build_eq_ok_iff.2 fragment, ⟨rfl, rfl, rfl, ?_⟩⟩
  have columns : RecursiveStatement.columnsText { name, base, sorting, limit := r.limit } = r.columnList :=
    RecursiveStatement.columnsText_eq fragment
  have order := OrderBy.text_of_resolveGiven_id sorted
  rw [RecursiveStatement.text_eq, columns, (Name.parse_sound named).2, Select.tailText, order]
  -- What is left is where the parentheses stand, whatever the texts are.
  unfold wrap Statement.body inParentheses
  rw [Reference.limit_eq]
  generalize base.select.text = body
  generalize (r.orderBy.map RecursiveQuery.order).getD "" = order
  generalize (r.limit.map Limit.text).getD "" = limit
  generalize r.columnList = columns
  generalize r.name = name
  have opening : "\n  AS (" = "\n  AS " ++ "(" := rfl
  have closing : ")\nSELECT * FROM " = ")" ++ "\nSELECT * FROM " := rfl
  simp only [opening, closing, String.append_assoc]

theorem recursive_wraps_body (r : RecursiveQuery) :
    ((∃ s, r.build.outcome = .ok s) ↔ ∀ c ∈ r.checks, c.Passes) ∧
      (∀ f, r.build.outcome = .error f ↔
        ∃ before c after, r.checks = before ++ c :: after ∧ (∀ b ∈ before, b.Passes) ∧ c.Fails f) ∧
      ∀ s, r.build.outcome = .ok s → ∃ body, r.body.build.outcome = .ok body ∧ s.Wraps body r := by
  refine ⟨?_, ?_, fun s h => RecursiveQuery.wraps_of_build h⟩
  · simp only [r.checked_build.exists_ok_iff, RecursiveCheck.fault?_eq_none_iff]
  · intro f
    simp only [r.checked_build.eq_error_iff, RecursiveCheck.fault?_eq_none_iff,
      RecursiveCheck.fault?_eq_some_iff, and_comm (a := RecursiveCheck.Fails _ f)]

-- The second column is called `*`, but is not one.
def Query.branches : Query where
  table := "nodes"
  columns := ["id", "n0.\"*\"", "\"parent.id\""]
  clauses := [
    .conditions [⟨"id", .value .equal (.int 1)⟩],
    .union { kind := some .all, table := "nodes", tableAlias := some "n" },
    .join { table := "tree", on := [⟨"id", .column .equal "n.\"parent.id\""⟩] }]

def RecursiveQuery.tree : RecursiveQuery where
  body := Query.branches
  name := "tree"
  orderBy := some { column := "shop.\"*\"", direction := .descending }
  limit := some { limit := 5, offset := some 10 }

theorem recursive_wraps_body_tree :
    let inner :=
      "SELECT n0.id,n0.\"*\",n0.\"parent.id\" FROM nodes AS n0\n WHERE n0.id = :AAA0" ++
        "\nUNION ALL SELECT n.id,n.\"*\",n.\"parent.id\" FROM nodes AS n" ++
        "\nJOIN tree AS t1 ON t1.id = n.\"parent.id\""
    let outer :=
      "WITH RECURSIVE tree (id,\"*\",\"parent.id\")\n  AS (" ++ inner ++
        ")\nSELECT * FROM tree ORDER BY shop.\"*\" DESC LIMIT 5 OFFSET 10;"
    (∃ s body, RecursiveQuery.tree.build.outcome = .ok s ∧ Query.branches.build.outcome = .ok body ∧
      s.Wraps body RecursiveQuery.tree ∧ body.text = inner ++ ";" ∧ s.text = outer) ∧
    RecursiveQuery.tree.columnList = " (id,\"*\",\"parent.id\")" ∧
    -- Here the body is not only ordered, it cannot be built either.
    ({ RecursiveQuery.tree with
        body := { table := " ", limit := some { limit := 1 } } }).build.outcome = .error .orderedBody := by
  intro inner outer
  have texts : RecursiveQuery.tree.build.outcome.toOption.map (fun s => (s.base.text, s.text)) =
      some (inner ++ ";", outer) := by decide +kernel
  obtain ⟨s, h, shown⟩ := exists_ok_of_toOption texts
  obtain ⟨innerText, outerText⟩ := Prod.mk.inj shown
  obtain ⟨body, hb, wraps⟩ := (recursive_wraps_body RecursiveQuery.tree).2.2 s h
  rw [wraps.base] at innerText
  refine ⟨⟨s, body, h, hb, wraps, innerText, outerText⟩, by decide +kernel, ?_⟩
  let before : List RecursiveCheck := [.own (.given .recursionName "tree"), .own (.name "tree")]
  have passed : ∀ c ∈ before, c.fault?.isNone := by decide +kernel
  refine ((recursive_wraps_body _).2.1 _).2 ⟨before, .unordered _, _, rfl, ?_, .unordered (by simp)⟩
  exact fun c hc => RecursiveCheck.fault?_eq_none_iff.1 (Option.isNone_iff_eq_none.1 (passed c hc))

end BoundSelect
