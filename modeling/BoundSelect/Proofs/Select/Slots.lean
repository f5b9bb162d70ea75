import BoundSelect.Proofs.Placeholder.Keys
import BoundSelect.Proofs.Select.Steps

set_option autoImplicit false

namespace BoundSelect

open Outcome

def Clause.tested : Clause → Conditions
  | conditions cs => cs
  | join j => j.on
  | union _ => []

def Query.tested (q : Query) : Conditions := q.clauses.flatMap Clause.tested

def Operand.allValues : Operand → List Value
  | none => []
  | value v => [v]
  | values vs => vs

def Predicate.slots (p : Predicate) (tag : Nat) : List Slot :=
  if p.binds then Slot.ofValues tag p.operand.allValues else []

namespace Conditions

def slots (tag : Nat) (cs : Conditions) : List Slot :=
  (number tag cs).flatMap fun (k, c) => c.predicate.slots k

theorem slots_append (tag : Nat) (cs ds : Conditions) :
    slots tag (cs ++ ds) = slots tag cs ++ slots (tag + bindCount cs) ds := by
  simp only [slots, number_append, List.flatMap_append]

theorem slots_cons (tag : Nat) (c : Condition) (rest : Conditions) :
    slots tag (c :: rest) =
      c.predicate.slots tag ++ slots (if c.predicate.binds then tag + 1 else tag) rest := rfl

end Conditions

theorem Predicate.tag_of_mem_slots {p : Predicate} {tag : Nat} {s : Slot} (h : s ∈ p.slots tag) :
    p.binds ∧ s.tag = tag := by
  unfold slots at h
  split at h
  next binds =>
    obtain ⟨⟨v, i⟩, -, rfl⟩ := List.mem_map.1 h
    exact ⟨binds, rfl⟩
  next => simp at h

theorem Conditions.le_tag_of_mem_slots {cs : Conditions} {tag : Nat} {s : Slot}
    (h : s ∈ slots tag cs) : tag ≤ s.tag := by
  induction cs generalizing tag with
  | nil => simp [slots, number] at h
  | cons c rest ih =>
    rw [slots_cons] at h
    rcases List.mem_append.1 h with h | h
    · exact Nat.le_of_eq (Predicate.tag_of_mem_slots h).2.symm
    · have later := ih h
      split at later <;> omega

theorem Slot.nodup_keys_ofValues (tag : Nat) (vs : List Value) :
    ((ofValues tag vs).map key).Nodup := by
  have indices : ((ofValues tag vs).map index).Nodup := by
    have range : (ofValues tag vs).map index = List.range' 0 vs.length := by
      rw [← List.zipIdx_map_snd, ofValues, List.map_map]
      rfl
    rw [range]
    exact List.nodup_range'
  rw [List.nodup_iff_pairwise_ne, List.pairwise_map] at indices ⊢
  exact indices.imp fun different same => different (key_injective same).2

theorem Conditions.nodup_keys (tag : Nat) (cs : Conditions) :
    ((slots tag cs).map Slot.key).Nodup := by
  induction cs generalizing tag with
  | nil => simp [slots, number]
  | cons c rest ih =>
    rw [slots_cons, List.map_append, List.nodup_append]
    refine ⟨?_, ih _, ?_⟩
    · unfold Predicate.slots
      split
      · exact Slot.nodup_keys_ofValues tag _
      · simp
    · intro k hk l hl same
      obtain ⟨s, hs, rfl⟩ := List.mem_map.1 hk
      obtain ⟨t, ht, rfl⟩ := List.mem_map.1 hl
      obtain ⟨binds, first⟩ := Predicate.tag_of_mem_slots hs
      have later := le_tag_of_mem_slots ht
      rw [if_pos binds] at later
      have tags := (Slot.key_injective same).1
      omega

theorem Predicate.Bound.allSlots_eq {o : Operator} {operand : Operand} {tag : Nat} {t : Term}
    (bound : Bound tag o operand t) (binds : o.isNullTest = false) :
    t.allSlots = Slot.ofValues tag operand.allValues := by
  cases bound with
  | nothing test => simp [binds] at test
  | one v compares => rfl
  | some vs listed => rfl
  | two low high => rfl

theorem Predicate.allSlots_of_term {p : Predicate} {tag : Nat} {t : Term}
    (h : p.term tag = .ok t) : t.allSlots = p.slots tag := by
  unfold term at h
  split at h
  next bound =>
    have made := bound_of_boundTerm (mapError_eq_ok_iff.1 h)
    cases test : p.operator.isNullTest with
    | false => rw [made.allSlots_eq test, slots, if_pos (by simp [binds, bound, test])]
    | true =>
      have none : p.slots tag = [] := if_neg (by simp [binds, test])
      rw [none, made.eq_none test]
      rfl
  next unbound =>
    have none : p.slots tag = [] := if_neg (by simp [binds, unbound])
    obtain rfl := Except.ok.inj h
    rw [none]
    cases p.operand <;> rfl

theorem Condition.resolve_eq_ok_iff {c : Condition} {owner : Name} {tag : Nat} {t : Test} :
    c.resolve owner tag = .ok t ↔ ∃ column term, Identifier.parseColumn c.column = .ok column ∧
      c.predicate.term tag = .ok term ∧
      { column := column.qualify owner, operator := c.predicate.operator, term } = t := by
  simp only [resolve, bind_eq_ok_iff, lift_eq_ok_iff, pure_eq_ok_iff]
  constructor
  · rintro ⟨column, read, term, made, rfl⟩
    exact ⟨column, term, read, made, rfl⟩
  · rintro ⟨column, term, read, made, rfl⟩
    exact ⟨column, read, term, made, rfl⟩

theorem Condition.allSlots_of_resolve {c : Condition} {owner : Name} {tag : Nat} {t : Test}
    (h : c.resolve owner tag = .ok t) : t.term.allSlots = c.predicate.slots tag := by
  obtain ⟨column, term, -, made, rfl⟩ := resolve_eq_ok_iff.1 h
  exact Predicate.allSlots_of_term made

def testSlots (tests : List Test) : List Slot := tests.flatMap fun t => t.term.allSlots

theorem Conditions.slots_of_resolve {cs : Conditions} {owner : Name} {tag : Nat}
    {tests : List Test} (h : cs.resolve owner tag = .ok tests) : testSlots tests = slots tag cs := by
  rw [testSlots, slots, List.flatMap_def, List.flatMap_def]
  exact congrArg List.flatten (map_eq_of_mapM (fun _ _ => Condition.allSlots_of_resolve) h)

namespace Draft

theorem Step.slots_perm {settings : Settings} {d e : Draft} {c : Clause}
    (step : Step settings d c e) :
    e.chain.slots.Perm (d.chain.slots ++ Conditions.slots d.nextTag c.tested) ∧
      e.nextTag = d.nextTag + c.tested.bindCount := by
  cases step with
  | conditions resolved =>
    rw [Clause.tested, ← Conditions.slots_of_resolve resolved]
    refine ⟨?_, rfl⟩
    simp [Chain.slots, Chain.segments, Segment.tests, testSlots]
  | join read named sided resolved =>
    rw [Clause.tested, ← Conditions.slots_of_resolve resolved]
    refine ⟨?_, rfl⟩
    simp only [Chain.slots, Chain.segments, Segment.tests, testSlots, List.flatMap_append,
      List.flatMap_singleton, List.append_assoc]
    -- In the text the filters so far come after the slots of the join.
    exact (List.perm_append_comm.append_left _).append_left _
  | union read named qualified listed =>
    refine ⟨?_, rfl⟩
    simp [Chain.slots, Segment.tests, Clause.tested, Conditions.slots, Conditions.number]

theorem Run.slots_perm {settings : Settings} {d e : Draft} {clauses : List Clause}
    (run : Run settings d clauses e) :
    e.chain.slots.Perm
      (d.chain.slots ++ Conditions.slots d.nextTag (clauses.flatMap Clause.tested)) := by
  induction clauses generalizing d with
  | nil =>
    rw [← run_nil_iff.1 run]
    simp [Conditions.slots, Conditions.number]
  | cons c rest ih =>
    obtain ⟨next, step, others⟩ := run_cons_iff.1 run
    obtain ⟨first, count⟩ := step.slots_perm
    have later := ih others
    rw [count] at later
    rw [List.flatMap_cons, Conditions.slots_append, ← List.append_assoc]
    exact later.trans (first.append_right _)

theorem Run.nextTag {settings : Settings} {d e : Draft} {clauses : List Clause}
    (run : Run settings d clauses e) :
    e.nextTag = d.nextTag + Conditions.bindCount (clauses.flatMap Clause.tested) := by
  induction clauses generalizing d with
  | nil =>
    rw [← run_nil_iff.1 run]
    rfl
  | cons c rest ih =>
    obtain ⟨next, step, others⟩ := run_cons_iff.1 run
    rw [ih others, step.slots_perm.2, List.flatMap_cons, Conditions.bindCount_append, Nat.add_assoc]

theorem start_slots {q : Query} {d : Draft} (h : start q = .ok d) :
    d.chain.slots = [] ∧ d.nextTag = 0 := by
  obtain ⟨table, name, pool, columns, -, -, -, rfl⟩ := start_eq_ok_iff.1 h
  exact ⟨rfl, rfl⟩

end Draft

namespace Query

theorem slots_perm_of_select {q : Query} {s : Select} (h : q.select.outcome = .ok s) :
    s.chain.slots.Perm (Conditions.slots 0 q.tested) := by
  obtain ⟨start, d, sorting, started, run, -, rfl⟩ := select_eq_ok_iff.1 h
  obtain ⟨none, zero⟩ := Draft.start_slots started
  have slots := run.slots_perm
  rwa [none, zero, List.nil_append] at slots

theorem nodup_keys_of_select {q : Query} {s : Select} (h : q.select.outcome = .ok s) :
    (s.chain.slots.map Slot.key).Nodup :=
  ((slots_perm_of_select h).map Slot.key).nodup_iff.2 (Conditions.nodup_keys 0 q.tested)

end Query

end BoundSelect
