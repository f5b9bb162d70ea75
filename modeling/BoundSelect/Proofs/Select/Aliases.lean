import BoundSelect.Proofs.AliasPool
import BoundSelect.Proofs.Identifier.Writing
import BoundSelect.Proofs.Select.Steps

set_option autoImplicit false

namespace BoundSelect

open Outcome

def Clause.naming? : Clause → Option (Option String)
  | conditions _ => none
  | join j => some j.tableAlias
  | union u => some u.tableAlias

def Query.aliases (q : Query) : List (Option String) :=
  q.tableAlias :: q.clauses.filterMap Clause.naming?

def Segment.names (s : Segment) : List Name := s.source.name :: s.joins.map fun j => j.source.name

def Chain.names (c : Chain) : List Name := c.segments.flatMap Segment.names

def Statement.names (s : Statement) : List Name := s.select.chain.names

def generated : List (Option String) → List Name → List Name
  | none :: aliases, name :: names => name :: generated aliases names
  | some _ :: aliases, _ :: names => generated aliases names
  | _, _ => []

def Name.Numbered (name : Name) (n : Nat) : Prop :=
  ∃ letter : Char, letter.isLower ∧ name = .plain (String.singleton letter ++ toString n)

namespace AliasPool

inductive Gives : AliasPool → List (Option String) → List Name → Prop
  | nil (pool : AliasPool) : Gives pool [] []
  | cons {pool next : AliasPool} {chosen : Option String} {table : Identifier} {name : Name}
      {aliases : List (Option String)} {names : List Name}
      (first : pool.choose chosen table = .ok (name, next)) (others : Gives next aliases names) :
      Gives pool (chosen :: aliases) (name :: names)

theorem key_made (pool : AliasPool) (table : Identifier) :
    (pool.allocate table).1.key = candidate table.initial (firstFree table.initial pool.taken pool.next) :=
  key_candidate table _

namespace Gives

variable {pool : AliasPool} {aliases : List (Option String)} {names : List Name}

theorem chosen (gives : pool.Gives aliases names) :
    List.Forall₂ (fun chosen name => ∀ text ∈ chosen, Name.parse text = .ok name) aliases names := by
  induction gives with
  | nil pool => exact .nil
  | cons first others ih =>
    refine .cons ?_ ih
    rcases choose_eq_ok_iff.1 first with ⟨text, rfl, read, -⟩ | ⟨rfl, -⟩
    · simpa using read
    · simp

theorem numbered (gives : pool.Gives aliases names) :
    ∃ ns : List Nat, List.Forall₂ Name.Numbered (generated aliases names) ns ∧
      ns.Pairwise (· < ·) ∧ ∀ n ∈ ns, pool.next ≤ n := by
  induction gives with
  | nil pool => exact ⟨[], .nil, .nil, by simp⟩
  | @cons pool next chosen table name aliases names first others ih =>
    obtain ⟨ns, made, ascending, above⟩ := ih
    rcases choose_eq_ok_iff.1 first with ⟨text, rfl, -, rfl⟩ | ⟨rfl, allocated⟩
    · exact ⟨ns, made, ascending, above⟩
    · obtain ⟨rfl, rfl⟩ := Prod.mk.inj allocated
      have least := le_firstFree table.initial pool.taken pool.next
      refine ⟨_ :: ns, .cons ⟨table.initial, table.isLower_initial, rfl⟩ made,
        .cons above ascending, ?_⟩
      intro n hn
      rcases List.mem_cons.1 hn with rfl | hn
      · exact least
      · have later : firstFree table.initial pool.taken pool.next + 1 ≤ n := above n hn
        omega

theorem key_notMem_taken (gives : pool.Gives aliases names) :
    ∀ g ∈ generated aliases names, g.key ∉ pool.taken := by
  induction gives with
  | nil pool => simp [generated]
  | @cons pool next chosen table name aliases names first others ih =>
    rcases choose_eq_ok_iff.1 first with ⟨text, rfl, -, rfl⟩ | ⟨rfl, allocated⟩
    · exact ih
    · obtain ⟨rfl, rfl⟩ := Prod.mk.inj allocated
      intro g hg
      rcases List.mem_cons.1 hg with rfl | hg
      · have free := candidate_firstFree_notMem table.initial pool.taken pool.next
        rwa [← pool.key_made table] at free
      · exact fun old => ih g hg (List.mem_cons_of_mem _ old)

theorem nodup (gives : pool.Gives aliases names) : (generated aliases names).Nodup := by
  induction gives with
  | nil pool => exact .nil
  | @cons pool next chosen table name aliases names first others ih =>
    rcases choose_eq_ok_iff.1 first with ⟨text, rfl, -, rfl⟩ | ⟨rfl, allocated⟩
    · exact ih
    · obtain ⟨rfl, rfl⟩ := Prod.mk.inj allocated
      refine List.nodup_cons.2 ⟨fun again => ?_, ih⟩
      have used := others.key_notMem_taken _ again
      exact used (List.mem_cons.2 (.inl (pool.key_made table)))

end Gives

end AliasPool

namespace Draft

theorem Step.names {settings : Settings} {d e : Draft} {c : Clause} (step : Step settings d c e) :
    (c.naming? = none ∧ e.chain.names = d.chain.names ∧ e.pool = d.pool) ∨
      ∃ chosen table name, c.naming? = some chosen ∧
        d.pool.choose chosen table = .ok (name, e.pool) ∧ e.chain.names = d.chain.names ++ [name] := by
  cases step with
  | conditions resolved =>
    refine .inl ⟨rfl, ?_, rfl⟩
    simp [Chain.names, Chain.segments, Segment.names]
  | join read named sided resolved =>
    refine .inr ⟨_, _, _, rfl, named, ?_⟩
    simp [Chain.names, Chain.segments, Segment.names]
  | union read named qualified listed =>
    refine .inr ⟨_, _, _, rfl, named, ?_⟩
    simp [Chain.names, Segment.names]

theorem Run.names {settings : Settings} {d e : Draft} {clauses : List Clause}
    (run : Run settings d clauses e) :
    ∃ names, e.chain.names = d.chain.names ++ names ∧
      d.pool.Gives (clauses.filterMap Clause.naming?) names := by
  induction clauses generalizing d with
  | nil =>
    rw [← run_nil_iff.1 run]
    exact ⟨[], (List.append_nil _).symm, .nil _⟩
  | cons c rest ih =>
    obtain ⟨next, step, others⟩ := run_cons_iff.1 run
    obtain ⟨names, all, gives⟩ := ih others
    rcases step.names with ⟨unnamed, same, pool⟩ | ⟨chosen, table, name, naming, named, more⟩
    · rw [List.filterMap_cons_none unnamed, ← pool, ← same]
      exact ⟨names, all, gives⟩
    · rw [List.filterMap_cons_some naming]
      refine ⟨name :: names, ?_, .cons named gives⟩
      rw [all, more, List.append_assoc, List.singleton_append]

end Draft

namespace Query

def chosenAliases (q : Query) : List String := q.aliases.filterMap id

theorem chosenAliases_eq (q : Query) :
    q.chosenAliases = q.tableAlias.toList ++ q.clauses.filterMap Clause.tableAlias? := by
  have clause : (fun c => (Clause.naming? c).bind id) = Clause.tableAlias? := by
    funext c
    cases c <;> rfl
  rw [chosenAliases, aliases, List.filterMap_cons, List.filterMap_filterMap, clause]
  cases q.tableAlias <;> rfl

theorem gives_of_select {q : Query} {s : Select} (h : q.select.outcome = .ok s) :
    (AliasPool.ofAliases q.chosenAliases).Gives q.aliases s.chain.names := by
  obtain ⟨start, d, sorting, started, run, -, rfl⟩ := select_eq_ok_iff.1 h
  obtain ⟨table, name, pool, columns, -, named, -, rfl⟩ := Draft.start_eq_ok_iff.1 started
  obtain ⟨names, all, gives⟩ := run.names
  rw [all, chosenAliases_eq]
  -- Reserving the alias of the first table again changes nothing.
  suffices chosen : (AliasPool.ofAliases
        (q.tableAlias.toList ++ q.clauses.filterMap Clause.tableAlias?)).choose q.tableAlias table =
      .ok (name, if q.tableAlias.isSome then pool.reserve name else pool) from .cons chosen gives
  cases given : q.tableAlias with
  | none =>
    rw [given] at named
    exact named
  | some text =>
    rw [given] at named
    obtain ⟨_, same, read, rfl⟩ | ⟨none, -⟩ := AliasPool.choose_eq_ok_iff.1 named
    · obtain rfl := Option.some.inj same
      rw [Option.toList_some, List.singleton_append, AliasPool.ofAliases_cons read]
      exact AliasPool.choose_eq_ok_iff.2 (.inl ⟨text, rfl, read, rfl⟩)
    · cases none

end Query

end BoundSelect
