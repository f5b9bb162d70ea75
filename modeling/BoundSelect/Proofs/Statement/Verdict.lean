import BoundSelect.Proofs.Select.Checks

set_option autoImplicit false

namespace BoundSelect

theorem build_verdict (q : Query) :
    ((∃ s, q.build.outcome = .ok s) ↔ ∀ c ∈ q.checks, c.Passes) ∧
      ∀ f, q.build.outcome = .error f ↔
        ∃ before c after, q.checks = before ++ c :: after ∧ (∀ b ∈ before, b.Passes) ∧ c.Fails f := by
  constructor
  · simp only [q.checked_build.exists_ok_iff, Check.fault?_eq_none_iff]
  · intro f
    simp only [q.checked_build.eq_error_iff, Check.fault?_eq_none_iff, Check.fault?_eq_some_iff,
      and_comm (a := Check.Fails _ f)]

-- The other condition, the union and the order are wrong too, but they come later.
def Query.faulty : Query where
  table := "users"
  columns := ["name"]
  clauses := [
    .join { table := "orders", on := [⟨"state", .value .isIn (.text "open")⟩, ⟨"user id", .isNull⟩] },
    .union { table := " " }]
  orderBy := some ⟨"users.", .ascending⟩

theorem build_verdict_faulty :
    Query.faulty.build.outcome = .error (.operand .isIn (.notValues .value)) := by
  let operand : Predicate := .value .isIn (.text "open")
  let before : List Check := [.given .table "users", .table "users", .column "name",
    .given .joinTable "orders", .table "orders", .side {} none, .column "state"]
  have passed : ∀ c ∈ before, c.fault?.isNone := by decide +kernel
  have unfit : ¬operand.Fits := by
    rw [← @Predicate.fault?_term_eq_none_iff operand 0]
    exact Option.some_ne_none _
  refine ((build_verdict Query.faulty).2 _).2 ⟨before, .operand operand, _, rfl, ?_, .operand unfit⟩
  exact fun c hc => Check.fault?_eq_none_iff.1 (Option.isNone_iff_eq_none.1 (passed c hc))

end BoundSelect
