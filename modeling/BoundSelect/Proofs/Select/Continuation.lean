import BoundSelect.Proofs.Select.Aliases

set_option autoImplicit false

namespace BoundSelect

open Outcome

namespace AliasPool

-- A pool that stands where another does, but knows of more names.
structure Knows (more pool : AliasPool) (extra : List String) : Prop where
  next : more.next = pool.next
  kept : pool.taken ⊆ more.taken
  new : more.taken ⊆ pool.taken ++ extra

variable {pool more next : AliasPool} {extra : List String}

theorem Knows.reserve (knows : more.Knows pool extra) (name : Name) :
    (more.reserve name).Knows (pool.reserve name) extra where
  next := knows.next
  kept := List.cons_subset_cons _ knows.kept
  new := List.cons_subset_cons _ knows.new

theorem Knows.allocate (knows : more.Knows pool extra) {table : Identifier} {name : Name}
    (made : pool.allocate table = (name, next)) (free : name.key ∉ extra) :
    ∃ next', more.allocate table = (name, next') ∧ next'.Knows next extra := by
  have key := pool.key_made table
  rw [made] at key
  rw [key] at free
  obtain ⟨rfl, rfl⟩ := Prod.mk.inj made
  have unknown : candidate table.initial (firstFree table.initial pool.taken pool.next) ∉ more.taken := by
    intro known
    rcases List.mem_append.1 (knows.new known) with old | added
    · exact candidate_firstFree_notMem table.initial pool.taken pool.next old
    · exact free added
  have same := firstFree_eq_of_subset knows.kept unknown
  unfold AliasPool.allocate
  rw [knows.next, same]
  exact ⟨_, rfl, rfl, List.cons_subset_cons _ knows.kept, List.cons_subset_cons _ knows.new⟩

theorem Knows.choose (knows : more.Knows pool extra) {chosen : Option String} {table : Identifier}
    {name : Name} (named : pool.choose chosen table = .ok (name, next))
    (free : chosen = none → name.key ∉ extra) :
    ∃ next', more.choose chosen table = .ok (name, next') ∧ next'.Knows next extra := by
  rcases choose_eq_ok_iff.1 named with ⟨text, rfl, read, rfl⟩ | ⟨rfl, made⟩
  · exact ⟨more, choose_eq_ok_iff.2 (.inl ⟨text, rfl, read, rfl⟩), knows⟩
  · obtain ⟨next', madeMore, later⟩ := knows.allocate made (free rfl)
    exact ⟨next', choose_eq_ok_iff.2 (.inr ⟨rfl, madeMore⟩), later⟩

theorem knows_ofAliases (explicit others : List String) :
    (ofAliases (explicit ++ others)).Knows (ofAliases explicit) (ofAliases others).taken where
  next := rfl
  kept := by simp [ofAliases]
  new := by simp [ofAliases]

end AliasPool

namespace Draft

variable {settings : Settings} {d e : Draft} {more : AliasPool} {extra : List String}

theorem Step.of_knows {c : Clause} (step : Step settings d c e) (knows : more.Knows d.pool extra)
    (free : c.naming? = some none → ∀ name, e.chain.names = d.chain.names ++ [name] → name.key ∉ extra) :
    ∃ more', Step settings { d with pool := more } c { e with pool := more' } ∧
      more'.Knows e.pool extra := by
  cases step with
  | conditions resolved => exact ⟨more, .conditions resolved, knows⟩
  | @join j table name pool side on read named sided resolved =>
    have unchosen : j.tableAlias = none → name.key ∉ extra := by
      intro none
      refine free (congrArg some none) name ?_
      simp [Chain.names, Chain.segments, Segment.names]
    obtain ⟨more', namedMore, later⟩ := knows.choose named unchosen
    exact ⟨more', .join read namedMore sided resolved, later⟩
  | @union u table name qualifier pool columns read named qualified listed =>
    have unchosen : u.tableAlias = none → name.key ∉ extra := by
      intro none
      refine free (congrArg some none) name ?_
      simp [Chain.names, Segment.names]
    obtain ⟨more', namedMore, later⟩ := knows.choose named unchosen
    exact ⟨more', .union read namedMore qualified listed, later⟩

theorem Run.of_knows {clauses : List Clause} (run : Run settings d clauses e)
    (knows : more.Knows d.pool extra)
    (free : ∀ names, e.chain.names = d.chain.names ++ names →
      ∀ g ∈ generated (clauses.filterMap Clause.naming?) names, g.key ∉ extra) :
    ∃ more', Run settings { d with pool := more } clauses { e with pool := more' } := by
  induction clauses generalizing d more with
  | nil =>
    rw [← run_nil_iff.1 run]
    exact ⟨more, run_nil_iff.2 rfl⟩
  | cons c rest ih =>
    obtain ⟨next, step, others⟩ := run_cons_iff.1 run
    obtain ⟨later, all, -⟩ := others.names
    have first : c.naming? = some none →
        ∀ name, next.chain.names = d.chain.names ++ [name] → name.key ∉ extra := by
      intro unchosen name named
      rw [named, List.append_assoc] at all
      refine free _ all name ?_
      rw [List.filterMap_cons_some unchosen]
      exact List.mem_cons_self
    obtain ⟨more', stepMore, knowsMore⟩ := step.of_knows knows first
    have freeRest : ∀ names, e.chain.names = next.chain.names ++ names →
        ∀ g ∈ generated (rest.filterMap Clause.naming?) names, g.key ∉ extra := by
      intro names allNames g hg
      rcases step.names with ⟨unnamed, same, -⟩ | ⟨chosen, table, name, naming, -, named⟩
      · rw [same] at allNames
        refine free names allNames g ?_
        rwa [List.filterMap_cons_none unnamed]
      · rw [named, List.append_assoc] at allNames
        refine free _ allNames g ?_
        rw [List.filterMap_cons_some naming]
        cases chosen with
        | none => exact List.mem_cons_of_mem _ hg
        | some text => exact hg
    obtain ⟨last, runMore⟩ := ih others knowsMore freeRest
    exact ⟨last, run_cons_iff.2 ⟨_, stepMore, runMore⟩⟩

theorem run_append_iff {first second : List Clause} :
    Run settings d (first ++ second) e ↔ ∃ mid, Run settings d first mid ∧ Run settings mid second e := by
  simp only [Run, List.foldlM_append, bind_eq_ok_iff]

theorem Run.unique {clauses : List Clause} {e' : Draft} (run : Run settings d clauses e)
    (other : Run settings d clauses e') : e = e' :=
  Except.ok.inj (run.symm.trans other)

end Draft

end BoundSelect
