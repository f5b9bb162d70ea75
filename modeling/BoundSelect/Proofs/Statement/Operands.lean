import BoundSelect.Proofs.Document.Operands
import BoundSelect.Proofs.Select.Checks

set_option autoImplicit false

namespace BoundSelect

open Outcome

theorem Query.operand_mem_checks {q : Query} {p : Predicate} (hp : p ∈ q.binding) : .operand p ∈ q.checks := by
  obtain ⟨tested, -⟩ := List.mem_filter.1 hp
  obtain ⟨condition, there, rfl⟩ := List.mem_map.1 tested
  obtain ⟨clause, given, tests⟩ := List.mem_flatMap.1 there
  have own : ∀ cs : Conditions, condition ∈ cs → .operand condition.predicate ∈ cs.checks :=
    fun cs hc => List.mem_flatMap.2 ⟨condition, hc, by simp [Condition.checks]⟩
  have checked : .operand condition.predicate ∈ clause.checks q.settings := by
    cases clause with
    | conditions cs => exact own cs tests
    | join j => exact List.mem_append_right _ (own j.on tests)
    | union u => cases tests
  have checkedIn := List.mem_flatMap.2 ⟨clause, given, checked⟩
  exact List.mem_append_left _ (List.mem_append_right _ checkedIn)

theorem Predicate.Fits.operand_ne_none {p : Predicate} (fits : p.Fits) (binds : p.binds) :
    p.operand ≠ .none := by
  cases fits with
  | unbound => simp [Predicate.binds] at binds
  | nullTest test => simp [Predicate.binds, test] at binds
  | one | some | two => simp

theorem Query.operand_ne_none_of_build {q : Query} {s : Statement} (h : q.build.outcome = .ok s)
    {p : Predicate} (hp : p ∈ q.binding) : p.operand ≠ .none := by
  have passed := q.checked_build.exists_ok_iff.1 ⟨s, h⟩ _ (operand_mem_checks hp)
  have fits : p.Fits := Check.fault?_eq_none_iff.1 passed
  exact fits.operand_ne_none (List.mem_filter.1 hp).2

def Operand.elements (o : Operand) : List Json := o.allValues.map Value.toJson

theorem elements_readOperand {j : Json} (given : Document.readOperand j ≠ .none) :
    (Document.readOperand j).elements = j.elements := by
  cases j with
  | null => exact absurd rfl given
  | arr items =>
    have back : (items.map Value.ofJson).map Value.toJson = items.map id := by
      rw [List.map_map]
      exact List.map_congr_left fun item _ => Value.toJson_ofJson item
    exact back.trans (List.map_id items)
  | bool | num | str | obj => exact congrArg (fun j => [j]) (Value.toJson_ofJson _)

-- Each element is there under the tag of its number and its own index, and nothing else is.
structure Carried (operands : List Json) (fields : List (String × Json)) : Prop where
  ordered : fields.Pairwise fun e f => compare e.1 f.1 = .lt
  mem_iff : ∀ key j, (key, j) ∈ fields ↔ ∃ (k i : Nat) (x : Json), operands[k]? = some x ∧
    x.elements[i]? = some j ∧ key = Tag.text k ++ toString i

theorem Binds.Hold.carried {b : Binds} {ps : List Predicate} {operands : List Json} (hold : b.Hold ps)
    (read : ps.map Predicate.operand = operands.map Document.readOperand)
    (given : ∀ p ∈ ps, p.operand ≠ .none) : Carried operands b.fields := by
  have back : ∀ x ∈ operands, (Document.readOperand x).elements = x.elements := by
    intro x hx
    apply elements_readOperand
    have there : Document.readOperand x ∈ ps.map Predicate.operand := read ▸ List.mem_map_of_mem hx
    obtain ⟨p, hp, same⟩ := List.mem_map.1 there
    exact same ▸ given p hp
  have elements : ps.map (fun p => p.operand.elements) = operands.map Json.elements :=
    calc ps.map (fun p => p.operand.elements)
      _ = (ps.map Predicate.operand).map Operand.elements := by rw [List.map_map]; rfl
      _ = operands.map fun x => (Document.readOperand x).elements := by rw [read, List.map_map]; rfl
      _ = operands.map Json.elements := List.map_congr_left back
  have each (k : Nat) : ps[k]?.map (fun p => p.operand.elements) = operands[k]?.map Json.elements := by
    rw [← List.getElem?_map, elements, List.getElem?_map]
  refine ⟨b.fields_ordered, fun key j => ?_⟩
  rw [mem_fields_iff]
  constructor
  · rintro ⟨v, found, rfl⟩
    obtain ⟨k, i, p, hp, value, rfl⟩ := (hold.values key v).1 found
    have there := each k
    rw [hp, Option.map_some] at there
    obtain ⟨x, hx, same⟩ := Option.map_eq_some_iff.1 there.symm
    refine ⟨k, i, x, hx, ?_, rfl⟩
    rw [same, Operand.elements, List.getElem?_map, value, Option.map_some]
  · rintro ⟨k, i, x, hx, element, rfl⟩
    have there := each k
    rw [hx, Option.map_some] at there
    obtain ⟨p, hp, same⟩ := Option.map_eq_some_iff.1 there
    rw [← same, Operand.elements, List.getElem?_map] at element
    obtain ⟨v, value, written⟩ := Option.map_eq_some_iff.1 element
    exact ⟨v, (hold.values _ v).2 ⟨k, i, p, hp, value, rfl⟩, written⟩

theorem Query.carried_of_build {q : Query} {s : Statement} {operands : List Json}
    (read : q.binding.map Predicate.operand = operands.map Document.readOperand)
    (h : q.build.outcome = .ok s) : Carried operands s.binds.fields :=
  (binds_hold_of_build h).carried read fun _ => operand_ne_none_of_build h

theorem operands_carried (doc : Json) :
    (∀ s, (Query.ofJson doc >>= Query.build).outcome = .ok s →
      ∃ fields, s.binds.toJson = .obj fields ∧ Carried (Document.operands doc) fields) ∧
    ∀ s, (RecursiveQuery.ofJson doc >>= RecursiveQuery.build).outcome = .ok s →
      ∃ fields, s.binds.toJson = .obj fields ∧ Carried (Document.operands doc) fields := by
  constructor
  · intro s h
    rw [Traced.outcome_bind] at h
    obtain ⟨q, read, built⟩ := bind_eq_ok_iff.1 h
    rw [Query.ofJson, Traced.outcome_bind] at read
    obtain ⟨form, formed, body⟩ := bind_eq_ok_iff.1 read
    have operands := Document.operands_of_read (mapError_eq_ok_iff.1 formed) body
    exact ⟨s.binds.fields, s.binds.toJson_eq, Query.carried_of_build operands built⟩
  · intro s h
    rw [Traced.outcome_bind] at h
    obtain ⟨r, read, built⟩ := bind_eq_ok_iff.1 h
    rw [RecursiveQuery.ofJson, Traced.outcome_bind] at read
    obtain ⟨form, formed, rest⟩ := bind_eq_ok_iff.1 read
    rw [Traced.outcome_bind] at rest
    obtain ⟨q, body, rest⟩ := bind_eq_ok_iff.1 rest
    rw [Traced.outcome_bind] at rest
    obtain ⟨orderBy, -, same⟩ := bind_eq_ok_iff.1 rest
    obtain rfl := Except.ok.inj same
    have operands := Document.operands_of_read (mapError_eq_ok_iff.1 formed) body
    obtain ⟨-, -, name, base, sorting, -, fragment, -, rfl⟩ := RecursiveQuery.build_eq_ok_iff.1 built
    have bodyBuilt := Query.build_eq_ok_iff.2 fragment
    exact ⟨base.binds.fields, base.binds.toJson_eq, Query.carried_of_build operands bodyBuilt⟩

def Json.comparing : Json := .obj [
  ("table", .str "users"),
  ("options", .arr [
    .obj [("Conditions", .obj [
      ("id", .obj [("=", .num (.big 18446744073709551615 (by decide)))]),
      ("state", .obj [("IN", .arr [.null, .num (.int (-9223372036854775808)), .arr [.null]])]),
      ("gone", .arr [.str "IS NULL"])])],
    .obj [
      ("Join", .obj [
        ("table", .str "orders"),
        ("conditions", .obj [
          ("user", .obj [("=", .str "u0.id"), ("process", .bool false)]),
          ("total", .arr [.str ">", .num (.int 5)])])]),
      ("Union", .obj [("table", .str "archive")])],
    .obj [("Conditions", .obj [
      ("details", .obj [("process", .bool true), ("<>", .obj [("a", .null)])])])]]),
  ("recursion_name", .str "tree")]

theorem operands_carried_comparing :
    (∃ s fields, (Query.ofJson Json.comparing >>= Query.build).outcome = .ok s ∧
      s.binds.toJson = .obj fields ∧ ("AAB2", .arr [.null]) ∈ fields ∧ ("AAC0", .num (.int 5)) ∈ fields) ∧
    ∃ s fields, (RecursiveQuery.ofJson Json.comparing >>= RecursiveQuery.build).outcome = .ok s ∧
      s.binds.toJson = .obj fields ∧ ("AAB0", .null) ∈ fields ∧ ("AAD0", .obj [("a", .null)]) ∈ fields := by
  have built : (Query.ofJson Json.comparing >>= Query.build).outcome.isOk := by decide +kernel
  have builtRecursive :
      (RecursiveQuery.ofJson Json.comparing >>= RecursiveQuery.build).outcome.isOk := by
    decide +kernel
  have listed : Document.operands Json.comparing =
      [.num (.big 18446744073709551615 (by decide)),
       .arr [.null, .num (.int (-9223372036854775808)), .arr [.null]], .num (.int 5),
       .obj [("a", .null)]] := by
    have compared : ∀ token ∈ ["=", "IN", ">", "<>"], Document.isNullTest token = false := by decide +kernel
    have nullTest : Document.isNullTest "IS NULL" = true := by decide +kernel
    have tags : ["Conditions", "Join", "Union"].map String.toUpper = ["CONDITIONS", "JOIN", "UNION"] := by
      decide +kernel
    simp only [List.forall_mem_cons, List.map_cons, List.cons.injEq] at compared tags
    simp [Document.operands, Document.options, Json.comparing, Json.field?, Json.items, Json.entries,
      Document.entryOperands, Document.conditionOperands, Document.joinConditions, Document.boundOperand?,
      Document.comparedWith?, List.lookup_cons, compared, nullTest, tags]
  obtain ⟨s, h⟩ := isOk_iff.1 built
  obtain ⟨r, hr⟩ := isOk_iff.1 builtRecursive
  obtain ⟨fields, written, carried⟩ := (operands_carried _).1 s h
  obtain ⟨others, writtenToo, carriedToo⟩ := (operands_carried _).2 r hr
  rw [listed] at carried carriedToo
  refine ⟨⟨s, fields, h, written, ?_, ?_⟩, r, others, hr, writtenToo, ?_, ?_⟩
  · exact (carried.mem_iff "AAB2" _).2 ⟨1, 2, _, rfl, rfl, by decide +kernel⟩
  · exact (carried.mem_iff "AAC0" _).2 ⟨2, 0, _, rfl, rfl, by decide +kernel⟩
  · exact (carriedToo.mem_iff "AAB0" _).2 ⟨1, 0, _, rfl, rfl, by decide +kernel⟩
  · exact (carriedToo.mem_iff "AAD0" _).2 ⟨3, 0, _, rfl, rfl, by decide +kernel⟩

end BoundSelect
