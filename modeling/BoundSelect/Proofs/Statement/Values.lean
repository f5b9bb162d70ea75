import BoundSelect.Proofs.Binds
import BoundSelect.Proofs.Select.Slots
import Mathlib.Algebra.Order.Ring.Nat

set_option autoImplicit false

namespace BoundSelect

theorem Slot.mem_ofValues_iff {s : Slot} {tag : Nat} {vs : List Value} :
    s ∈ ofValues tag vs ↔ s.tag = tag ∧ vs[s.index]? = some s.value := by
  simp only [ofValues, List.mem_map, Prod.exists, List.mem_zipIdx_iff_getElem?]
  constructor
  · rintro ⟨v, i, found, rfl⟩
    exact ⟨rfl, found⟩
  · rintro ⟨rfl, found⟩
    exact ⟨s.value, s.index, found, rfl⟩

namespace Conditions

def binding (cs : Conditions) : List Predicate := (cs.map Condition.predicate).filter Predicate.binds

theorem length_binding (cs : Conditions) : cs.binding.length = cs.bindCount := by
  rw [binding, bindCount, ← List.countP_eq_length_filter, List.countP_map]
  rfl

theorem slots_eq_binding (tag : Nat) (cs : Conditions) :
    slots tag cs =
      (cs.binding.zipIdx tag).flatMap fun (p, k) => Slot.ofValues k p.operand.allValues := by
  induction cs generalizing tag with
  | nil => rfl
  | cons c rest ih =>
    rw [slots_cons, ih]
    by_cases binds : c.predicate.binds
    · have counted : binding (c :: rest) = c.predicate :: binding rest := by simp [binding, binds]
      rw [if_pos binds, counted, List.zipIdx_cons, List.flatMap_cons, Predicate.slots, if_pos binds]
    · have skipped : binding (c :: rest) = binding rest := by simp [binding, binds]
      rw [if_neg binds, skipped, Predicate.slots, if_neg binds, List.nil_append]

theorem mem_slots_iff {cs : Conditions} {s : Slot} :
    s ∈ slots 0 cs ↔
      ∃ p, cs.binding[s.tag]? = some p ∧ p.operand.allValues[s.index]? = some s.value := by
  simp only [slots_eq_binding, List.mem_flatMap, Prod.exists, List.mem_zipIdx_iff_getElem?,
    Slot.mem_ofValues_iff]
  constructor
  · rintro ⟨p, k, found, rfl, value⟩
    exact ⟨p, found, value⟩
  · rintro ⟨p, found, value⟩
    exact ⟨p, s.tag, found, rfl, value⟩

theorem length_slots (tag : Nat) (cs : Conditions) :
    (slots tag cs).length = (cs.binding.map fun p => p.operand.allValues.length).sum := by
  have lengths : (cs.binding.zipIdx tag).map (fun x => (Slot.ofValues x.2 x.1.operand.allValues).length) =
      ((cs.binding.zipIdx tag).map Prod.fst).map fun p => p.operand.allValues.length := by
    rw [List.map_map]
    exact List.map_congr_left fun x _ => Slot.length_ofValues x.2 _
  rw [slots_eq_binding, List.length_flatMap, lengths, List.zipIdx_map_fst]

end Conditions

def Query.binding (q : Query) : List Predicate := q.tested.binding

structure Binds.Hold (b : Binds) (ps : List Predicate) : Prop where
  values : ∀ key v, b[key]? = some v ↔ ∃ (k i : Nat) (p : Predicate), ps[k]? = some p ∧
    p.operand.allValues[i]? = some v ∧ key = Tag.text k ++ toString i
  size : b.size = (ps.map fun p => p.operand.allValues.length).sum

theorem Query.binds_hold_of_build {q : Query} {s : Statement} (h : q.build.outcome = .ok s) :
    s.binds.Hold q.binding := by
  obtain ⟨select, selected, rfl⟩ := fragment_eq_ok_iff.1 (build_eq_ok_iff.1 h)
  have perm := slots_perm_of_select selected
  have distinct := nodup_keys_of_select selected
  constructor
  · intro key v
    rw [Statement.binds, Binds.getElem_ofSlots_iff distinct]
    constructor
    · rintro ⟨s, hs, rfl, rfl⟩
      obtain ⟨p, found, value⟩ := Conditions.mem_slots_iff.1 (perm.mem_iff.1 hs)
      exact ⟨s.tag, s.index, p, found, value, rfl⟩
    · rintro ⟨k, i, p, found, value, rfl⟩
      exact ⟨⟨k, i, v⟩, perm.mem_iff.2 (Conditions.mem_slots_iff.2 ⟨p, found, value⟩), rfl, rfl⟩
  · rw [Statement.binds, Binds.size_ofSlots distinct, perm.length_eq, Conditions.length_slots]
    rfl

theorem binds_exact :
    (∀ (q : Query) (s : Statement), q.build.outcome = .ok s → s.binds.Hold q.binding) ∧
      ∀ (q : RecursiveQuery) (s : RecursiveStatement), q.build.outcome = .ok s →
        ∃ body, q.body.build.outcome = .ok body ∧ s.binds = body.binds := by
  constructor
  · exact fun _ _ h => Query.binds_hold_of_build h
  · intro q s h
    obtain ⟨-, -, name, base, sorting, -, fragment, -, rfl⟩ := RecursiveQuery.build_eq_ok_iff.1 h
    exact ⟨base, Query.build_eq_ok_iff.2 fragment, rfl⟩

-- The filter comes first, but after the join in the text.
def Query.outOfOrder : Query where
  table := "orders"
  clauses := [
    .conditions [⟨"state", .values .isIn [.text "open", .null]⟩, ⟨"gone", .isNull⟩],
    .join {
      table := "markets"
      on := [⟨"id", .column .equal "o0.market"⟩, ⟨"zone", .value .equal (.int 7)⟩] },
    .union { table := "archive" },
    .conditions [⟨"year", .between (.int 2001) (.int 2009)⟩]]

theorem binds_exact_outOfOrder :
    (∃ s, Query.outOfOrder.build.outcome = .ok s ∧ s.binds.size = 5 ∧
      s.binds["AAA1"]? = some .null ∧ s.binds["AAB0"]? = some (.int 7) ∧
      s.binds["AAC1"]? = some (.int 2009)) ∧
    ∃ r body, (RecursiveQuery.mk Query.outOfOrder "tree" none none).build.outcome = .ok r ∧
      Query.outOfOrder.build.outcome = .ok body ∧ r.binds = body.binds := by
  have built : Query.outOfOrder.build.outcome.isOk := by decide +kernel
  have builtRecursive :
      (RecursiveQuery.mk Query.outOfOrder "tree" none none).build.outcome.isOk := by
    decide +kernel
  obtain ⟨s, h⟩ := Outcome.isOk_iff.1 built
  obtain ⟨r, hr⟩ := Outcome.isOk_iff.1 builtRecursive
  obtain ⟨values, size⟩ := binds_exact.1 _ s h
  obtain ⟨body, hb, same⟩ := binds_exact.2 _ r hr
  refine ⟨⟨s, h, size, ?_, ?_, ?_⟩, r, body, hr, hb, same⟩
  · exact (values "AAA1" _).2 ⟨0, 1, _, rfl, rfl, by decide +kernel⟩
  · exact (values "AAB0" _).2 ⟨1, 0, _, rfl, rfl, by decide +kernel⟩
  · exact (values "AAC1" _).2 ⟨2, 1, _, rfl, rfl, by decide +kernel⟩

end BoundSelect
