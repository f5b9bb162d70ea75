import BoundSelect.Proofs.Binds
import BoundSelect.Proofs.Select.Pieces

set_option autoImplicit false

namespace BoundSelect

open Text

def Text.keysIn (s : String) : List String := (marks (outside false s.toList)).filterMap id

structure Binds.Match (b : Binds) (s : String) : Prop where
  distinct : (keysIn s).Nodup
  same : ∀ k, k ∈ keysIn s ↔ k ∈ b
  complete : ∀ before after, outside false s.toList = before ++ ':' :: after → (keyAt after).isSome

-- Only operands that are written out can show quotes or colons of their own.
def Conditions.Quiet (cs : Conditions) : Prop :=
  ∀ c ∈ cs, c.predicate.bound = false →
    '"' ∉ (Predicate.unboundTerm c.predicate.operand).text.toList ∧
      ':' ∉ (Predicate.unboundTerm c.predicate.operand).text.toList

instance (cs : Conditions) : Decidable cs.Quiet :=
  inferInstanceAs (Decidable (∀ c ∈ cs, c.predicate.bound = false → _ ∧ _))

theorem Text.keyAt_mem_marks {before after : List Char} :
    keyAt after ∈ marks (before ++ ':' :: after) := by
  induction before with
  | nil => simp [marks]
  | cons c rest ih =>
    rw [List.cons_append, marks]
    split
    · exact List.mem_cons_of_mem _ ih
    · exact ih

theorem Binds.match_of_marks {slots : List Slot} {s : String}
    (found : marks (outside false s.toList) = (slots.map Slot.key).map some)
    (distinct : (slots.map Slot.key).Nodup) : (ofSlots slots).Match s := by
  have keys : keysIn s = slots.map Slot.key := by
    rw [keysIn, found, List.filterMap_map]
    exact List.filterMap_some
  refine ⟨keys ▸ distinct, ?_, ?_⟩
  · intro k
    rw [keys, mem_ofSlots]
  · intro before after split
    have mark : keyAt after ∈ marks (outside false s.toList) := split ▸ keyAt_mem_marks
    rw [found] at mark
    obtain ⟨k, -, key⟩ := List.mem_map.1 mark
    rw [← key]
    rfl

theorem Text.Piece.marks_terminated {sober : Prop} {keys : List String} {body : String}
    (h : Piece sober keys body) : marks (outside false (body ++ ";").toList) = keys.map some := by
  have stop : Stops [';'] := by simp [Stops]
  have whole := h.marked [';'] stop
  rw [String.toList_append, outside_append, h.closed]
  simpa [outside, marks] using whole

theorem Conditions.Quiet.give {cs : Conditions} (quiet : cs.Quiet) : cs.Give (Term.IsPiece False) := by
  intro c hc tag t made
  unfold Predicate.term at made
  split at made
  next => exact (Predicate.bound_of_boundTerm (Outcome.mapError_eq_ok_iff.1 made)).piece
  next unbound =>
    obtain ⟨quotes, colons⟩ := quiet c hc (by simpa using unbound)
    obtain rfl := Except.ok.inj made
    have keys : (Predicate.unboundTerm c.predicate.operand).keys = [] := by
      cases c.predicate.operand <;> rfl
    rw [Term.IsPiece, keys]
    exact .of_notMem quotes colons

theorem Query.match_of_build {q : Query} {s : Statement} (quiet : q.tested.Quiet)
    (h : q.build.outcome = .ok s) : s.binds.Match s.text := by
  have piece := (Query.wellFormed_of_build quiet.give h).piece
  obtain ⟨select, selected, rfl⟩ := fragment_eq_ok_iff.1 (build_eq_ok_iff.1 h)
  exact Binds.match_of_marks piece.marks_terminated (nodup_keys_of_select selected)

theorem RecursiveQuery.match_of_build {q : RecursiveQuery} {s : RecursiveStatement}
    (quiet : q.body.tested.Quiet) (h : q.build.outcome = .ok s) : s.binds.Match s.text := by
  obtain ⟨body, text, piece⟩ := (RecursiveQuery.wellFormed_of_build quiet.give h).piece
  obtain ⟨-, -, name, base, sorting, -, fragment, -, rfl⟩ := build_eq_ok_iff.1 h
  obtain ⟨select, selected, rfl⟩ := Query.fragment_eq_ok_iff.1 fragment
  rw [text]
  exact Binds.match_of_marks piece.marks_terminated (Query.nodup_keys_of_select selected)

theorem placeholders_match :
    (∀ (q : Query) (s : Statement), q.tested.Quiet → q.build.outcome = .ok s →
      s.binds.Match s.text) ∧
    ∀ (q : RecursiveQuery) (s : RecursiveStatement), q.body.tested.Quiet →
      q.build.outcome = .ok s → s.binds.Match s.text :=
  ⟨fun _ _ quiet h => Query.match_of_build quiet h,
    fun _ _ quiet h => RecursiveQuery.match_of_build quiet h⟩

def Query.lookingAlike : Query where
  table := "\":AAA0\""
  columns := ["id", "\"a:\"\":AAB0\""]
  clauses := [
    .conditions [⟨"price", .between (.int 1) (.int 9)⟩, ⟨"id", .column .less "m1.id"⟩],
    .join {
      table := "markets"
      side := some (.known .left)
      on := [⟨"\":AAC0\"", .value .equal (.text ":AAD0")⟩] },
    .union { kind := some .all, table := "archive", tableAlias := some "\":x\"" },
    .conditions [⟨"id", .values .isIn [.int 1, .int 2]⟩, ⟨"gone", .isNull⟩]]

theorem placeholders_match_lookingAlike :
    Query.lookingAlike.tested.Quiet ∧
      (∃ s, Query.lookingAlike.build.outcome = .ok s ∧ s.binds.Match s.text) ∧
      ∃ s, (RecursiveQuery.mk Query.lookingAlike "\":AAA0\"" none none).build.outcome = .ok s ∧
        s.binds.Match s.text := by
  have quiet : Query.lookingAlike.tested.Quiet := by decide +kernel
  have built : Query.lookingAlike.build.outcome.isOk := by decide +kernel
  have builtRecursive :
      (RecursiveQuery.mk Query.lookingAlike "\":AAA0\"" none none).build.outcome.isOk := by
    decide +kernel
  obtain ⟨s, h⟩ := Outcome.isOk_iff.1 built
  obtain ⟨r, hr⟩ := Outcome.isOk_iff.1 builtRecursive
  exact ⟨quiet, ⟨s, h, placeholders_match.1 _ s quiet h⟩, r, hr, placeholders_match.2 _ r quiet hr⟩

end BoundSelect
