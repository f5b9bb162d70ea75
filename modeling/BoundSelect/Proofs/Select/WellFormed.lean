import BoundSelect.Proofs.AliasPool
import BoundSelect.Proofs.Select.Slots

set_option autoImplicit false

namespace BoundSelect

open Outcome

def Source.WellFormed (s : Source) : Prop := s.table.WellFormed ∧ s.name.WellFormed

section

variable (T : Term → Prop)

structure Test.WellFormed (t : Test) : Prop where
  column : t.column.WellFormed
  term : T t.term

structure JoinedSource.WellFormed (j : JoinedSource) : Prop where
  source : j.source.WellFormed
  on : ∀ t ∈ j.on, t.WellFormed T

structure Segment.WellFormed (s : Segment) : Prop where
  columns : ∀ c ∈ s.columns, c.WellFormed
  source : s.source.WellFormed
  joins : ∀ j ∈ s.joins, j.WellFormed T
  filters : ∀ t ∈ s.filters, t.WellFormed T

structure Chain.WellFormed (c : Chain) : Prop where
  closed : ∀ s ∈ c.closed, s.1.WellFormed T
  last : c.last.WellFormed T

structure Select.WellFormed (s : Select) : Prop where
  chain : s.chain.WellFormed T
  sorting : ∀ o ∈ s.sorting, o.column.WellFormed

structure RecursiveStatement.WellFormed (s : RecursiveStatement) : Prop where
  name : s.name.WellFormed
  select : s.base.select.WellFormed T
  sorting : ∀ o ∈ s.sorting, o.column.WellFormed

structure Draft.WellFormed (d : Draft) : Prop where
  chain : d.chain.WellFormed T
  owner : d.owner.WellFormed

end

-- No predicate gives a term outside of `T`, whatever its tag.
def Conditions.Give (T : Term → Prop) (cs : Conditions) : Prop :=
  ∀ c ∈ cs, ∀ tag t, c.predicate.term tag = .ok t → T t

variable {T : Term → Prop}

theorem Identifier.WellFormed.qualify {i : Identifier} {owner : Name} (hi : i.WellFormed)
    (ho : owner.WellFormed) : (i.qualify owner).WellFormed := by
  unfold Identifier.qualify
  split
  · exact hi
  · exact ⟨by simpa using ho, hi.2⟩

theorem Identifier.WellFormed.bare {i : Identifier} (h : i.WellFormed) : i.bare.WellFormed :=
  ⟨by simp [Identifier.bare], h.2⟩

theorem Chain.WellFormed.main {c : Chain} (h : c.WellFormed T) : c.main.WellFormed T := by
  unfold Chain.main
  split
  next => exact h.last
  next first kind rest eq => exact h.closed (first, kind) (by simp [eq])

theorem Chain.WellFormed.extend {c : Chain} {next : Segment} (h : c.WellFormed T)
    (hn : next.WellFormed T) (kind : Option UnionKind) : (c.extend kind next).WellFormed T where
  closed := by
    intro s hs
    rcases List.mem_append.1 hs with hs | hs
    · exact h.closed s hs
    · rw [List.mem_singleton.1 hs]
      exact h.last
  last := hn

namespace Conditions

theorem mem_of_mem_number {cs : Conditions} {tag k : Nat} {c : Condition}
    (h : (k, c) ∈ number tag cs) : c ∈ cs := by
  have item := List.mem_map_of_mem (f := Prod.snd) h
  rwa [map_snd_number] at item

end Conditions

theorem Conditions.wellFormed_of_resolve {cs : Conditions} {owner : Name} {tag : Nat}
    {tests : List Test} (give : cs.Give T) (ho : owner.WellFormed)
    (h : cs.resolve owner tag = .ok tests) : ∀ t ∈ tests, t.WellFormed T := by
  intro t ht
  obtain ⟨⟨k, c⟩, hc, resolved⟩ := exists_of_mem_mapM h ht
  obtain ⟨column, term, read, made, rfl⟩ := Condition.resolve_eq_ok_iff.1 resolved
  exact ⟨(Identifier.parseColumn_sound read).1.qualify ho, give c (mem_of_mem_number hc) k term made⟩

namespace Draft

theorem wellFormed_of_parseTable {subject : Subject} {table : String} {i : Identifier}
    (h : parseTable subject table = .ok i) : i.WellFormed ∧ i.text = table :=
  Identifier.parse_sound (parseTable_eq_ok_iff.1 h).2

theorem wellFormed_of_parseColumns {columns : List String} {is : List Identifier}
    (h : parseColumns columns = .ok is) : ∀ i ∈ is, i.WellFormed := by
  intro i hi
  obtain ⟨column, -, read⟩ := exists_of_mem_mapM h hi
  exact (Identifier.parseColumn_sound (lift_eq_ok_iff.1 read)).1

theorem wellFormed_of_selected {owner : Name} {columns : List Identifier} (ho : owner.WellFormed)
    (h : ∀ c ∈ columns, c.WellFormed) : ∀ c ∈ selected owner columns, c.WellFormed := by
  intro c hc
  unfold selected at hc
  split at hc
  · rw [List.mem_singleton.1 hc]
    exact ⟨by simpa using ho, trivial⟩
  · obtain ⟨i, hi, rfl⟩ := List.mem_map.1 hc
    exact (h i hi).qualify ho

theorem wellFormed_of_unionQualifier {u : Union} {name qualifier : Name} (hn : name.WellFormed)
    (h : unionQualifier u name = .ok qualifier) : qualifier.WellFormed := by
  unfold unionQualifier at h
  split at h
  · exact (Name.parse_sound (lift_eq_ok_iff.1 h)).1
  · rw [← pure_eq_ok_iff.1 h]
    exact hn

theorem wellFormed_of_unionColumns {u : Union} {left columns : List Identifier}
    (hl : ∀ c ∈ left, c.WellFormed) (h : unionColumns u left = .ok columns) :
    ∀ c ∈ columns, c.WellFormed := by
  unfold unionColumns at h
  split at h
  · exact wellFormed_of_parseColumns h
  · rw [← pure_eq_ok_iff.1 h]
    intro c hc
    obtain ⟨i, hi, rfl⟩ := List.mem_map.1 hc
    exact (hl i hi).bare

theorem wellFormed_of_start {q : Query} {d : Draft} (h : start q = .ok d) : d.WellFormed T := by
  obtain ⟨table, name, pool, columns, read, named, listed, rfl⟩ := start_eq_ok_iff.1 h
  have hn := AliasPool.wellFormed_of_choose named
  refine ⟨⟨by simp, ?_, ⟨(wellFormed_of_parseTable read).1, hn⟩, by simp, by simp⟩, hn⟩
  exact wellFormed_of_selected hn (wellFormed_of_parseColumns listed)

theorem Step.wellFormed {settings : Settings} {d e : Draft} {c : Clause} (step : Step settings d c e)
    (give : c.tested.Give T) (h : d.WellFormed T) : e.WellFormed T := by
  cases step with
  | conditions resolved =>
    have tests := Conditions.wellFormed_of_resolve give h.owner resolved
    refine ⟨⟨h.chain.closed, { h.chain.last with filters := ?_ }⟩, h.owner⟩
    intro t ht
    rcases List.mem_append.1 ht with ht | ht
    · exact h.chain.last.filters t ht
    · exact tests t ht
  | join read named sided resolved =>
    have hn := AliasPool.wellFormed_of_choose named
    have on := Conditions.wellFormed_of_resolve give hn resolved
    refine ⟨⟨h.chain.closed, { h.chain.last with joins := ?_ }⟩, hn⟩
    intro j hj
    rcases List.mem_append.1 hj with hj | hj
    · exact h.chain.last.joins j hj
    · rw [List.mem_singleton.1 hj]
      exact ⟨⟨(wellFormed_of_parseTable read).1, hn⟩, on⟩
  | union read named qualified listed =>
    have hn := AliasPool.wellFormed_of_choose named
    have hq := wellFormed_of_unionQualifier hn qualified
    have hc := wellFormed_of_unionColumns h.chain.last.columns listed
    refine ⟨h.chain.extend ⟨wellFormed_of_selected hq hc, ?_, by simp, by simp⟩ _, hn⟩
    exact ⟨(wellFormed_of_parseTable read).1, hn⟩

end Draft

theorem OrderBy.wellFormed_of_resolveGiven {o : Option OrderBy} {qualify : Identifier → Identifier}
    {sorting : Option Sorting} (keep : ∀ i : Identifier, i.WellFormed → (qualify i).WellFormed)
    (h : resolveGiven o qualify = .ok sorting) : ∀ s ∈ sorting, s.column.WellFormed := by
  cases o with
  | none => simp [← pure_eq_ok_iff.1 h]
  | some o =>
    obtain ⟨s, resolved, rfl⟩ := map_eq_ok_iff.1 h
    obtain ⟨column, read, rfl⟩ := resolve_eq_ok_iff.1 resolved
    simpa using keep column (Identifier.parseColumn_sound read).1

theorem Query.wellFormed_of_select {q : Query} {s : Select} (give : q.tested.Give T)
    (h : q.select.outcome = .ok s) : s.WellFormed T := by
  obtain ⟨start, d, sorting, started, run, sorted, rfl⟩ := select_eq_ok_iff.1 h
  have keep : ∀ d e, ∀ c ∈ q.clauses, Draft.Step q.settings d c e → d.WellFormed T → e.WellFormed T :=
    fun d e c hc step => step.wellFormed fun t ht => give t (List.mem_flatMap.2 ⟨c, hc, ht⟩)
  have chain := (Draft.run_invariant keep run (Draft.wellFormed_of_start started)).chain
  exact ⟨chain, OrderBy.wellFormed_of_resolveGiven (fun i hi => hi.qualify chain.main.source.2) sorted⟩

theorem Query.wellFormed_of_build {q : Query} {s : Statement} (give : q.tested.Give T)
    (h : q.build.outcome = .ok s) : s.select.WellFormed T := by
  obtain ⟨select, selected, rfl⟩ := fragment_eq_ok_iff.1 (build_eq_ok_iff.1 h)
  exact wellFormed_of_select give selected

theorem Query.table_text_of_fragment {q : Query} {s : Statement} (h : q.fragment.outcome = .ok s) :
    s.table.text = q.table := by
  obtain ⟨select, selected, rfl⟩ := fragment_eq_ok_iff.1 h
  obtain ⟨start, d, sorting, started, run, -, rfl⟩ := select_eq_ok_iff.1 selected
  obtain ⟨table, name, pool, columns, read, -, -, rfl⟩ := Draft.start_eq_ok_iff.1 started
  have main : d.chain.main.source = { table, name } := run.main.1
  show d.chain.main.source.table.text = q.table
  rw [main]
  exact (Draft.wellFormed_of_parseTable read).2

theorem RecursiveQuery.wellFormed_of_build {q : RecursiveQuery} {s : RecursiveStatement}
    (give : q.body.tested.Give T) (h : q.build.outcome = .ok s) : s.WellFormed T := by
  obtain ⟨-, -, name, base, sorting, named, fragment, sorted, rfl⟩ := build_eq_ok_iff.1 h
  have body : q.body.build.outcome = .ok base := Query.build_eq_ok_iff.2 fragment
  exact ⟨(Name.parse_sound named).1, Query.wellFormed_of_build give body,
    OrderBy.wellFormed_of_resolveGiven (fun _ hi => hi) sorted⟩

end BoundSelect
