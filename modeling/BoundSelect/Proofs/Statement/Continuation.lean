import BoundSelect.Proofs.Select.Continuation
import BoundSelect.Proofs.Select.Unions
import BoundSelect.Proofs.Statement.Aliases
import BoundSelect.Proofs.Statement.Rendering
import BoundSelect.Proofs.Statement.Values

set_option autoImplicit false

namespace BoundSelect

open Outcome

theorem unionText_eq (kind : Option UnionKind) : ∃ more, unionText kind = "\nUNION" ++ more := by
  cases kind with
  | none => exact ⟨" ", rfl⟩
  | some kind => exact ⟨" " ++ kind.text ++ " ", by cases kind <;> rfl⟩

namespace Draft

variable {settings : Settings} {d e : Draft}

theorem Run.text_of_union {u : Union} {rest : List Clause} (run : Run settings d (.union u :: rest) e) :
    ∃ tail, e.chain.text = d.chain.text ++ "\nUNION" ++ tail := by
  obtain ⟨next, step, others⟩ := run_cons_iff.1 run
  obtain ⟨c, goes⟩ := others.goesOn
  obtain ⟨kind, keyword⟩ := unionText_eq u.kind
  obtain ⟨segment, extended⟩ := step.extend
  have start : next.chain.closedText = d.chain.text ++ ("\nUNION" ++ kind) := by
    rw [extended, Chain.closedText_extend, keyword]
  refine ⟨kind ++ c.text, ?_⟩
  rw [goes.chain, Chain.text_behind, start]
  simp only [String.append_assoc]

end Draft

def Query.unite (q : Query) (u : Union) (rest : List Clause) : Query :=
  { q with clauses := q.clauses ++ .union u :: rest }

structure Statement.Continues (t s : Statement) : Prop where
  text : ∃ body tail, s.text = body ++ ";" ∧ t.text = body ++ "\nUNION" ++ tail
  tableAlias : t.tableAlias = s.tableAlias
  binds : ∀ (key : String) (v : Value), s.binds[key]? = some v → t.binds[key]? = some v

namespace Query

variable {q : Query} {u : Union} {rest : List Clause}

theorem binds_of_unite {s t : Statement} (built : q.build.outcome = .ok s)
    (united : (q.unite u rest).build.outcome = .ok t) (key : String) (v : Value)
    (found : s.binds[key]? = some v) : t.binds[key]? = some v := by
  have binding : (q.unite u rest).binding =
      q.binding ++ Conditions.binding ((Clause.union u :: rest).flatMap Clause.tested) := by
    simp [Query.binding, tested, unite, Conditions.binding]
  obtain ⟨k, i, p, there, value, rfl⟩ := ((binds_hold_of_build built).values key v).1 found
  refine ((binds_hold_of_build united).values _ v).2 ⟨k, i, p, ?_, value, rfl⟩
  have before := (List.getElem?_eq_some_iff.1 there).1
  rw [binding, List.getElem?_append_left before, there]

def laterKeys (u : Union) (rest : List Clause) : List String :=
  (AliasPool.ofAliases ((.union u :: rest).filterMap Clause.tableAlias?)).taken

theorem start_unite {start : Draft} (started : Draft.start q = .ok start)
    (free : q.tableAlias = none → ∀ name, start.chain.names = [name] → name.key ∉ laterKeys u rest) :
    ∃ more, Draft.start (q.unite u rest) = .ok { start with pool := more } ∧
      more.Knows start.pool (laterKeys u rest) := by
  obtain ⟨table, name, pool, columns, read, named, listed, rfl⟩ := Draft.start_eq_ok_iff.1 started
  have aliases : (q.unite u rest).clauses.filterMap Clause.tableAlias? =
      q.clauses.filterMap Clause.tableAlias? ++ (Clause.union u :: rest).filterMap Clause.tableAlias? :=
    List.filterMap_append
  have knows := AliasPool.knows_ofAliases (q.clauses.filterMap Clause.tableAlias?)
    ((Clause.union u :: rest).filterMap Clause.tableAlias?)
  rw [← aliases] at knows
  obtain ⟨next, namedMore, later⟩ := knows.choose named fun none => free none name rfl
  refine ⟨_, Draft.start_eq_ok_iff.2 ⟨table, name, next, columns, read, namedMore, listed, rfl⟩, ?_⟩
  show AliasPool.Knows (if q.tableAlias.isSome then next.reserve name else next)
    (if q.tableAlias.isSome then pool.reserve name else pool) (laterKeys u rest)
  split
  · exact later.reserve name
  · exact later

theorem mem_generated_of_later {chosen : Option String} {aliases : List (Option String)} {name g : Name}
    {names : List Name} (h : g ∈ BoundSelect.generated aliases names) :
    g ∈ BoundSelect.generated (chosen :: aliases) (name :: names) := by
  cases chosen with
  | none => exact List.mem_cons_of_mem _ h
  | some text => exact h

theorem draft_of_unite {start start' d e : Draft} (started : Draft.start q = .ok start)
    (run : Draft.Run q.settings start q.clauses d) (started' : Draft.start (q.unite u rest) = .ok start')
    (run' : Draft.Run q.settings start' (q.unite u rest).clauses e)
    (free : ∀ g ∈ BoundSelect.generated q.aliases d.chain.names, g.key ∉ laterKeys u rest) :
    ∃ more, Draft.Run q.settings { d with pool := more } (.union u :: rest) e := by
  obtain ⟨name, first⟩ : ∃ name, start.chain.names = [name] := by
    obtain ⟨table, name, pool, columns, -, -, -, rfl⟩ := Draft.start_eq_ok_iff.1 started
    exact ⟨name, rfl⟩
  obtain ⟨others, all, -⟩ := run.names
  have freeFirst : q.tableAlias = none →
      ∀ name, start.chain.names = [name] → name.key ∉ laterKeys u rest := by
    intro unchosen name named
    refine free name ?_
    rw [all, named, aliases, unchosen]
    exact List.mem_cons_self
  have freeLater : ∀ names, d.chain.names = start.chain.names ++ names →
      ∀ g ∈ BoundSelect.generated (q.clauses.filterMap Clause.naming?) names, g.key ∉ laterKeys u rest := by
    intro names same g hg
    refine free g ?_
    rw [same, first, aliases]
    exact mem_generated_of_later hg
  obtain ⟨more, startedMore, knows⟩ := start_unite started freeFirst
  obtain rfl := Except.ok.inj (startedMore.symm.trans started')
  obtain ⟨last, runMore⟩ := run.of_knows knows freeLater
  obtain ⟨mid, runMid, runRest⟩ := Draft.run_append_iff.1 run'
  obtain rfl := runMore.unique runMid
  exact ⟨last, runRest⟩

theorem select_unite {s t : Select} (selected : q.select.outcome = .ok s)
    (united : (q.unite u rest).select.outcome = .ok t)
    (free : ∀ g ∈ BoundSelect.generated q.aliases s.chain.names, g.key ∉ laterKeys u rest) :
    (∃ tail, t.chain.text = s.chain.text ++ "\nUNION" ++ tail) ∧
      t.chain.main.source = s.chain.main.source := by
  obtain ⟨start, d, sorting, started, run, -, rfl⟩ := select_eq_ok_iff.1 selected
  obtain ⟨start', e, sorting', started', run', -, rfl⟩ := select_eq_ok_iff.1 united
  obtain ⟨more, runRest⟩ := draft_of_unite started run started' run' free
  exact ⟨runRest.text_of_union, runRest.main.1⟩

theorem tail_of_unordered {s : Select} (unordered : q.orderBy = none) (unlimited : q.limit = none)
    (selected : q.select.outcome = .ok s) : s.text = s.chain.text := by
  obtain ⟨start, d, sorting, -, -, sorted, rfl⟩ := select_eq_ok_iff.1 selected
  rw [unordered] at sorted
  obtain rfl := pure_eq_ok_iff.1 sorted
  rw [Select.text, unlimited]
  simp [Select.tailText]

end Query

theorem union_continues {q : Query} {u : Union} {rest : List Clause} {s t : Statement}
    (unordered : q.orderBy = none) (unlimited : q.limit = none) (built : q.build.outcome = .ok s)
    (united : (q.unite u rest).build.outcome = .ok t)
    (apart : ∀ c ∈ .union u :: rest, ∀ text e, c.tableAlias? = some text → Name.parse text = .ok e →
      ∀ g ∈ q.generated s, g.key ≠ e.key) :
    t.Continues s := by
  have free : ∀ g ∈ q.generated s, g.key ∉ Query.laterKeys u rest := by
    intro g hg known
    obtain ⟨text, ht, key⟩ := List.mem_filterMap.1 known
    obtain ⟨c, hc, chosen⟩ := List.mem_filterMap.1 ht
    cases read : Name.parse text with
    | error flaw => simp [read, Except.toOption] at key
    | ok e =>
      simp only [read, Except.toOption, Option.map_some, Option.some.injEq] at key
      exact apart c hc text e chosen read g hg key.symm
  have binds := Query.binds_of_unite built united
  obtain ⟨select, selected, rfl⟩ := Query.fragment_eq_ok_iff.1 (Query.build_eq_ok_iff.1 built)
  obtain ⟨select', selected', rfl⟩ := Query.fragment_eq_ok_iff.1 (Query.build_eq_ok_iff.1 united)
  obtain ⟨⟨tail, text⟩, main⟩ := Query.select_unite selected selected' free
  refine ⟨⟨select.chain.text, tail ++ ";", ?_, ?_⟩, congrArg Source.name main, binds⟩
  · rw [Statement.text, Statement.body, Query.tail_of_unordered unordered unlimited selected]
  · rw [Statement.text, Statement.body, Query.tail_of_unordered (q := q.unite u rest) unordered unlimited
      selected', text, String.append_assoc]

def Query.purchases : Query where
  table := "users"
  columns := ["id"]
  clauses := [
    .conditions [⟨"age", .between (.int 18) (.int 65)⟩],
    .join { table := "orders", on := [⟨"user_id", .column .equal "u0.id"⟩] }]

-- None of these aliases is one that is made up before, though their numbers come close.
def Clause.furtherOn : List Clause := [
  .join { table := "orders", tableAlias := some "\"u1\"" },
  .conditions [⟨"state", .value .equal (.text "open")⟩],
  .union { table := "users" }]

theorem union_continues_furtherOn :
    let u : Union := { kind := some .all, table := "archive", tableAlias := some "U2" }
    let left := "SELECT u0.id FROM users AS u0\nJOIN orders AS o1 ON o1.user_id = u0.id" ++
      "\n WHERE u0.age BETWEEN :AAA0 AND :AAA1"
    let right := "\nUNION ALL SELECT U2.id FROM archive AS U2\nJOIN orders AS \"u1\"" ++
      "\n WHERE \"u1\".state = :AAB0\nUNION SELECT u3.id FROM users AS u3"
    ∃ s t, Query.purchases.build.outcome = .ok s ∧
      (Query.purchases.unite u Clause.furtherOn).build.outcome = .ok t ∧
      Query.purchases.generated s = [.plain "u0", .plain "o1"] ∧ t.Continues s ∧ s.text = left ++ ";" ∧
      t.text = left ++ right ++ ";" := by
  intro u left right
  have shown : Query.purchases.build.outcome.toOption.map (fun s => (Query.purchases.generated s, s.text)) =
      some ([.plain "u0", .plain "o1"], left ++ ";") := by decide +kernel
  have shownUnited : (Query.purchases.unite u Clause.furtherOn).build.outcome.toOption.map Statement.text =
      some (left ++ right ++ ";") := by decide +kernel
  obtain ⟨s, h, same⟩ := exists_ok_of_toOption shown
  obtain ⟨made, text⟩ := Prod.mk.inj same
  obtain ⟨t, ht, textUnited⟩ := exists_ok_of_toOption shownUnited
  refine ⟨s, t, h, ht, made, union_continues rfl rfl h ht ?_, text, textUnited⟩
  intro c hc text e chosen read g hg same
  have key : g.key ∈ ["u0", "o1"] := by
    have keys : [Name.plain "u0", Name.plain "o1"].map Name.key = ["u0", "o1"] := by decide +kernel
    rw [← keys, ← made]
    exact List.mem_map_of_mem hg
  have given : text ∈ ["U2", "\"u1\""] := List.mem_filterMap.2 ⟨c, hc, chosen⟩
  have apart : ∀ text ∈ ["U2", "\"u1\""], ∀ k ∈ ["u0", "o1"],
      (Name.parse text).toOption.map Name.key ≠ some k := by decide +kernel
  apply apart text given g.key key
  rw [read, same]
  rfl

end BoundSelect
