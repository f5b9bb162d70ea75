import BoundSelect.Proofs.Select.Checks
import BoundSelect.Proofs.Select.Continuation

set_option autoImplicit false

namespace BoundSelect

open Outcome

def SideChoice.recognized? : SideChoice → Option SideChoice
  | known side => some (.known side)
  | unrecognized _ => none

def Join.recognized (j : Join) : Join := { j with side := j.side.bind SideChoice.recognized? }

def Clause.recognized : Clause → Clause
  | conditions cs => conditions cs
  | join j => join j.recognized
  | union u => union u

def SidesKnown (clauses : List Clause) : Prop :=
  ∀ j, Clause.join j ∈ clauses → ∀ name, j.side ≠ some (.unrecognized name)

namespace Query

def lenient (q : Query) : Query := { q with settings.strictSides := false }

def strict (q : Query) : Query := { q with settings.strictSides := true }

def recognized (q : Query) : Query := { q with clauses := q.clauses.map Clause.recognized }

end Query

namespace Draft

variable {settings : Settings}

theorem resolveSide_recognized (lenient : settings.strictSides = false) (j : Join) :
    (resolveSide settings j.recognized).outcome = (resolveSide settings j).outcome := by
  rcases j with ⟨table, tableAlias, _ | _ | name, on⟩
  case none | some.known => rfl
  case some.unrecognized =>
    have dropped : (resolveSide settings ⟨table, tableAlias, some (.unrecognized name), on⟩).outcome = .ok none := by
      rw [resolveSide, lenient]
      rfl
    exact dropped.symm

theorem add_recognized (lenient : settings.strictSides = false) (d : Draft) (c : Clause) :
    (d.add settings c.recognized).outcome = (d.add settings c).outcome := by
  cases c with
  | conditions cs => rfl
  | union u => rfl
  | join j =>
    have side := resolveSide_recognized lenient j
    simp only [Clause.recognized, add, addJoin, Traced.outcome_bind, side]
    rfl

theorem resolveSide_of_known {j : Join} (known : ∀ name, j.side ≠ some (.unrecognized name))
    (settings other : Settings) : resolveSide settings j = resolveSide other j := by
  rcases j with ⟨table, tableAlias, _ | _ | name, on⟩
  case none | some.known => rfl
  case some.unrecognized => exact absurd rfl (known name)

theorem add_of_known {c : Clause} (known : SidesKnown [c]) (settings other : Settings) (d : Draft) :
    d.add settings c = d.add other c := by
  cases c with
  | conditions cs => rfl
  | union u => rfl
  | join j =>
    have side := resolveSide_of_known (known j List.mem_cons_self) settings other
    simp only [add, addJoin, side]

theorem foldlM_add_of_known {clauses : List Clause} (known : SidesKnown clauses) (settings other : Settings)
    (d : Draft) : clauses.foldlM (add settings) d = clauses.foldlM (add other) d := by
  induction clauses generalizing d with
  | nil => rfl
  | cons c rest ih =>
    have first : SidesKnown [c] := fun j hj => known j (List.mem_singleton.1 hj ▸ List.mem_cons_self)
    have others : SidesKnown rest := fun j hj => known j (List.mem_cons_of_mem c hj)
    simp only [List.foldlM_cons, add_of_known first settings other, ih others]

end Draft

namespace Query

theorem outcome_recognized (q : Query) :
    q.recognized.lenient.build.outcome = q.lenient.build.outcome := by
  have aliases : q.recognized.clauses.filterMap Clause.tableAlias? = q.clauses.filterMap Clause.tableAlias? := by
    have same : ∀ c : Clause, c.recognized.tableAlias? = c.tableAlias? := by rintro (_ | _ | _) <;> rfl
    simp only [recognized, List.filterMap_map, Function.comp_def, same]
  have start : Draft.start q.recognized.lenient = Draft.start q.lenient := by
    simp only [Draft.start, lenient, aliases]
    rfl
  have run (d : Draft) :
      (q.recognized.clauses.foldlM (Draft.add q.lenient.settings) d).outcome =
        (q.clauses.foldlM (Draft.add q.lenient.settings) d).outcome := by
    have step := Draft.add_recognized (show q.lenient.settings.strictSides = false from rfl)
    simp only [recognized, Traced.outcome_foldlM, List.foldlM_map, step]
  have draft : q.recognized.lenient.draft.outcome = q.lenient.draft.outcome := by
    simp only [Query.draft, start, Traced.outcome_bind]
    exact bind_congr run
  simp only [build, fragment, select, Traced.outcome_bind, draft, Settings.reportStatement_outcome]
  rfl

theorem build_of_known {q : Query} (known : SidesKnown q.clauses) : q.strict.build = q.lenient.build := by
  have draft : q.strict.draft = q.lenient.draft :=
    bind_congr (Draft.foldlM_add_of_known known q.strict.settings q.lenient.settings)
  simp only [build, fragment, select, draft]
  rfl

theorem known_of_strict {q : Query} {s : Statement} (built : q.strict.build.outcome = .ok s) :
    SidesKnown q.clauses := by
  intro j hj name
  have passed := q.strict.checked_build.exists_ok_iff.1 ⟨s, built⟩
  have asked : Check.side q.strict.settings j.side ∈ q.strict.checks := by
    have own : Check.side q.strict.settings j.side ∈ (Clause.join j).checks q.strict.settings := by
      simp [Clause.checks]
    have all := List.mem_flatMap.2 ⟨_, hj, own⟩
    exact List.mem_append_left _ (List.mem_append_right _ all)
  exact Check.fault?_eq_none_iff.1 (passed _ asked) rfl name

theorem refused_of_lenient {q : Query} {s : Statement} {before after : List Clause} {j : Join} {name : String}
    (split : q.clauses = before ++ Clause.join j :: after) (known : SidesKnown before)
    (side : j.side = some (.unrecognized name)) (built : q.lenient.build.outcome = .ok s) :
    q.strict.build.outcome = .error (.side name) := by
  obtain ⟨select, selected, -⟩ := fragment_eq_ok_iff.1 (build_eq_ok_iff.1 built)
  obtain ⟨start, d, -, started, run, -⟩ := select_eq_ok_iff.1 selected
  have clauses : q.lenient.clauses = before ++ Clause.join j :: after := split
  rw [clauses] at run
  obtain ⟨mid, first, later⟩ := Draft.run_append_iff.1 run
  obtain ⟨next, step, -⟩ := Draft.run_cons_iff.1 later
  -- Up to the join the run is that of the lenient build, and at the join only its side is left to be looked at.
  have first' : (before.foldlM (Draft.add q.strict.settings) start).outcome = pure mid := by
    rw [Draft.foldlM_add_of_known known q.strict.settings q.lenient.settings, Traced.outcome_foldlM]
    exact first
  have refused : (mid.add q.strict.settings (.join j)).outcome = .error (.side name) := by
    cases step with
    | @join _ table owner pool _ _ read named _ _ =>
      have read' : Draft.parseTable .joinTable j.table = pure table := read
      have named' : (liftM (mid.pool.choose j.tableAlias table) : Except Fault _) = pure (owner, pool) :=
        lift_eq_ok_iff.2 named
      simp only [Draft.add, Draft.addJoin, Draft.resolveSide, side, strict, if_true, Traced.outcome_bind,
        Traced.outcome_lift, Traced.outcome_lift_flaw, read', named', pure_bind]
      rfl
  have started' : Draft.start q.strict = pure start := started
  have clauses' : q.strict.clauses = before ++ Clause.join j :: after := split
  simp only [build, fragment, Query.select, draft, Traced.outcome_bind, Traced.outcome_lift, started', clauses',
    List.foldlM_append, List.foldlM_cons, pure_bind, first', refused]
  rfl

end Query

theorem sides_strict_or_lenient (q : Query) :
    q.recognized.lenient.build.outcome = q.lenient.build.outcome ∧
      (∀ s, q.strict.build.outcome = .ok s ↔ SidesKnown q.clauses ∧ q.lenient.build.outcome = .ok s) ∧
      (¬SidesKnown q.clauses → ∃ f, q.strict.build.outcome = .error f) ∧
      ∀ s before j after name, q.lenient.build.outcome = .ok s → q.clauses = before ++ Clause.join j :: after →
        SidesKnown before → j.side = some (.unrecognized name) →
          q.strict.build.outcome = .error (.side name) := by
  have succeeds (s : Statement) :
      q.strict.build.outcome = .ok s ↔ SidesKnown q.clauses ∧ q.lenient.build.outcome = .ok s := by
    constructor
    · intro built
      have known := Query.known_of_strict built
      exact ⟨known, Query.build_of_known known ▸ built⟩
    · rintro ⟨known, built⟩
      exact Query.build_of_known known ▸ built
  refine ⟨q.outcome_recognized, succeeds, ?_, ?_⟩
  · intro unknown
    cases strict : q.strict.build.outcome with
    | error f => exact ⟨f, rfl⟩
    | ok s => exact absurd ((succeeds s).1 strict).1 unknown
  · intro s before j after name built split known side
    exact Query.refused_of_lenient split known side built

-- The second join asks for a side there is none of, after an alias was made up and before values are bound.
def Query.sideways : Query where
  table := "users"
  columns := ["id"]
  clauses := [
    .join { table := "orders", side := some (.known .left), on := [⟨"user_id", .column .equal "u0.id"⟩] },
    .union { table := "guests" },
    .join { table := "visits", side := some (.unrecognized "sideways"), on := [⟨"year", .value .equal (.int 2024)⟩] },
    .conditions [⟨"pages", .value .greater (.int 1)⟩]]

theorem sides_strict_or_lenient_sideways :
    let spelled :=
      "SELECT u0.id FROM users AS u0\nLEFT JOIN orders AS o1 ON o1.user_id = u0.id" ++
        "\nUNION SELECT g2.id FROM guests AS g2\nJOIN visits AS v3 ON v3.year = :AAA0\n WHERE v3.pages > :AAB0;"
    (∃ s, Query.sideways.lenient.build.outcome = .ok s ∧
      Query.sideways.recognized.lenient.build.outcome = .ok s ∧ s.text = spelled) ∧
      Query.sideways.strict.build.outcome = .error (.side "sideways") := by
  intro spelled
  obtain ⟨dropped, -, -, refused⟩ := sides_strict_or_lenient Query.sideways
  have shown : Query.sideways.lenient.build.outcome.toOption.map Statement.text = some spelled := by decide +kernel
  obtain ⟨s, h, text⟩ := exists_ok_of_toOption shown
  have known : SidesKnown (Query.sideways.clauses.take 2) := by
    intro j hj name
    simp only [Query.sideways, List.take_succ_cons, List.take_zero, List.mem_cons, List.not_mem_nil, reduceCtorEq,
      Clause.join.injEq, or_false] at hj
    subst hj
    nofun
  exact ⟨⟨s, h, dropped.trans h, text⟩, refused s _ _ _ "sideways" h rfl known rfl⟩

end BoundSelect
