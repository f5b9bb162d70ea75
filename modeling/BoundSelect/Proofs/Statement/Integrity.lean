import BoundSelect.Proofs.Select.Pieces

set_option autoImplicit false

namespace BoundSelect

open Text

structure Text.Intact (s : String) : Prop where
  closed : openQuote false s.toList = false
  noNul : '\x00' ∉ s.toList
  plain : ∀ c ∈ outside false s.toList, c = '"' ∨ c = ';' ∨ isPlain c
  semicolon : (outside false s.toList).count ';' = 1
  terminated : (outside false s.toList).getLast? = some ';'
  nested : depth 0 (outside false s.toList) = some 0

def Conditions.AllBound (cs : Conditions) : Prop := ∀ c ∈ cs, c.predicate.bound

instance (cs : Conditions) : Decidable cs.AllBound :=
  inferInstanceAs (Decidable (∀ c ∈ cs, c.predicate.bound))

theorem Text.Piece.intact {keys : List String} {body : String} (h : Piece True keys body) :
    Intact (body ++ ";") := by
  have sober := h.sobered trivial
  have out : outside false (body ++ ";").toList = outside false body.toList ++ [';'] := by
    rw [String.toList_append, outside_append, h.closed]
    rfl
  have none : ';' ∉ outside false body.toList := by
    intro hc
    rcases sober.plain _ hc with quote | plain
    · cases quote
    · cases plain
  refine ⟨?_, by simp [sober.noNul], ?_, ?_, ?_, ?_⟩
  · rw [String.toList_append, openQuote_append, h.closed]
    rfl
  · intro c hc
    rw [out] at hc
    rcases List.mem_append.1 hc with hc | hc
    · exact (sober.plain c hc).imp_right .inr
    · exact .inr (.inl (List.mem_singleton.1 hc))
  · rw [out, List.count_append, List.count_eq_zero_of_not_mem none]
    rfl
  · rw [out, List.getLast?_append_cons]
    rfl
  · rw [out, depth_append, sober.nested]
    rfl

theorem Conditions.AllBound.give {cs : Conditions} (bound : cs.AllBound) :
    cs.Give (Term.IsPiece True) := by
  intro c hc tag t made
  rw [Predicate.term, if_pos (bound c hc)] at made
  exact (Predicate.bound_of_boundTerm (Outcome.mapError_eq_ok_iff.1 made)).piece

theorem Query.intact_of_build {q : Query} {s : Statement} (bound : q.tested.AllBound)
    (h : q.build.outcome = .ok s) : Intact s.text :=
  (Query.wellFormed_of_build bound.give h).piece.intact

theorem RecursiveQuery.intact_of_build {q : RecursiveQuery} {s : RecursiveStatement}
    (bound : q.body.tested.AllBound) (h : q.build.outcome = .ok s) : Intact s.text := by
  obtain ⟨body, text, piece⟩ := (RecursiveQuery.wellFormed_of_build bound.give h).piece
  rw [text]
  exact piece.intact

theorem statements_intact :
    (∀ (q : Query) (s : Statement), q.tested.AllBound → q.build.outcome = .ok s → Intact s.text) ∧
      ∀ (q : RecursiveQuery) (s : RecursiveStatement), q.body.tested.AllBound →
        q.build.outcome = .ok s → Intact s.text :=
  ⟨fun _ _ bound h => Query.intact_of_build bound h,
    fun _ _ bound h => RecursiveQuery.intact_of_build bound h⟩

def Query.hostile : Query where
  table := "\"users; DROP TABLE users; --\""
  columns := ["\"a')\"", "u.\"(\"\"/*\"", "*"]
  tableAlias := some "\"'\""
  clauses := [
    .join { table := "log.\"--\"", on := [⟨"\";\"", .values .isIn [.text "');", .null]⟩] },
    .conditions [⟨"id", .value .equal (.text "' OR ''='")⟩],
    .union { table := "\"(\"", columnsAlias := some "\"\"\"\"" }]

theorem statements_intact_hostile :
    let spelled :=
      "SELECT \"'\".\"a')\",u.\"(\"\"/*\",\"'\".* FROM \"users; DROP TABLE users; --\" AS \"'\"" ++
        "\nJOIN log.\"--\" AS t0 ON t0.\";\" IN (:AAA0,:AAA1)\n WHERE t0.id = :AAB0" ++
        "\nUNION SELECT \"\"\"\".\"a')\",\"\"\"\".\"(\"\"/*\",\"\"\"\".* FROM \"(\" AS t1;"
    Query.hostile.tested.AllBound ∧
      (∃ s, Query.hostile.build.outcome = .ok s ∧ Intact s.text ∧ s.text = spelled) ∧
      ∃ s, (RecursiveQuery.mk Query.hostile "\"; --\"" none none).build.outcome = .ok s ∧
        Intact s.text := by
  intro spelled
  have bound : Query.hostile.tested.AllBound := by decide
  have shown : Query.hostile.build.outcome.toOption.map Statement.text = some spelled := by decide +kernel
  have builtRecursive :
      (RecursiveQuery.mk Query.hostile "\"; --\"" none none).build.outcome.isOk := by
    decide +kernel
  obtain ⟨s, h, text⟩ := Outcome.exists_ok_of_toOption shown
  obtain ⟨r, hr⟩ := Outcome.isOk_iff.1 builtRecursive
  exact ⟨bound, ⟨s, h, statements_intact.1 _ s bound h, text⟩, r, hr, statements_intact.2 _ r bound hr⟩

end BoundSelect
