import BoundSelect.Proofs.Select.Aliases

set_option autoImplicit false

namespace BoundSelect

def Query.generated (q : Query) (s : Statement) : List Name := BoundSelect.generated q.aliases s.names

def Name.Apart (letters : String) : Name → Prop
  | plain other => other.toLower ≠ letters.toLower
  | quoted content => content ≠ letters

structure Statement.Named (s : Statement) (q : Query) : Prop where
  chosen : List.Forall₂ (fun chosen name => ∀ text ∈ chosen, Name.parse text = .ok name) q.aliases s.names
  numbered : ∃ ns : List Nat, List.Forall₂ Name.Numbered (q.generated s) ns ∧ ns.Pairwise (· < ·)
  bare : ∀ g ∈ q.generated s, ∃ letters, g = .plain letters ∧ Name.parse letters = .ok g
  distinct : (q.generated s).Nodup
  free : ∀ letters, .plain letters ∈ q.generated s → ∀ text, some text ∈ q.aliases →
    ∃ e, Name.parse text = .ok e ∧ e.Apart letters

theorem Name.Numbered.bare {g : Name} {n : Nat} (h : g.Numbered n) :
    ∃ letters, g = .plain letters ∧ Name.parse letters = .ok g := by
  obtain ⟨letter, lower, rfl⟩ := h
  exact ⟨_, rfl, (AliasPool.wellFormed_candidate lower n).parse_text⟩

theorem Name.Numbered.toLower_letters {letters : String} {n : Nat} (h : (Name.plain letters).Numbered n) :
    letters.toLower = letters := by
  obtain ⟨letter, lower, same⟩ := h
  obtain rfl := Name.plain.inj same
  exact AliasPool.toLower_candidate lower n

theorem Name.apart_of_key_ne {letters : String} {e : Name} (lower : letters.toLower = letters)
    (different : e.key ≠ (Name.plain letters).key) : e.Apart letters := by
  cases e with
  | plain other => exact different
  | quoted content =>
    intro same
    apply different
    rw [Name.key, Name.key, lower, same]

theorem AliasPool.mem_taken_ofAliases {explicit : List String} {text : String} {name : Name}
    (h : text ∈ explicit) (read : Name.parse text = .ok name) :
    name.key ∈ (ofAliases explicit).taken := by
  refine List.mem_filterMap.2 ⟨text, h, ?_⟩
  rw [read]
  rfl

theorem aliases_distinct {q : Query} {s : Statement} (h : q.build.outcome = .ok s) : s.Named q := by
  obtain ⟨select, selected, rfl⟩ := Query.fragment_eq_ok_iff.1 (Query.build_eq_ok_iff.1 h)
  have gives := Query.gives_of_select selected
  obtain ⟨ns, made, ascending, -⟩ := gives.numbered
  refine ⟨gives.chosen, ⟨ns, made, ascending⟩, ?_, gives.nodup, ?_⟩
  · intro g hg
    obtain ⟨n, -, numbered⟩ := Outcome.exists_of_mem_forall₂ made.flip hg
    exact Name.Numbered.bare numbered
  · intro letters hg text ht
    obtain ⟨n, -, numbered⟩ := Outcome.exists_of_mem_forall₂ made.flip hg
    obtain ⟨e, -, read⟩ := Outcome.exists_of_mem_forall₂ gives.chosen.flip ht
    have chosen : text ∈ q.chosenAliases := List.mem_filterMap.2 ⟨_, ht, rfl⟩
    have used := AliasPool.mem_taken_ofAliases chosen (read text rfl)
    refine ⟨e, read text rfl, Name.apart_of_key_ne (Name.Numbered.toLower_letters numbered) fun same => ?_⟩
    exact gives.key_notMem_taken _ hg (same ▸ used)

-- The aliases to stay clear of come later, in capitals and in quotes.
def Query.colliding : Query where
  table := "users"
  clauses := [
    .join { table := "orders", tableAlias := some "U0" },
    .join { table := "shop.\"Units\"" },
    .conditions [⟨"id", .isNotNull⟩],
    .union { table := "\"2\"" },
    .join { table := "old", tableAlias := some "\"u2\"" },
    .union { table := "users", tableAlias := some "\"T3\"" }]

theorem aliases_distinct_colliding :
    ∃ s, Query.colliding.build.outcome = .ok s ∧ s.Named Query.colliding ∧
      Query.colliding.generated s = [.plain "u1", .plain "u3", .plain "t4"] := by
  have names : Query.colliding.build.outcome.toOption.map Query.colliding.generated =
      some [.plain "u1", .plain "u3", .plain "t4"] := by decide +kernel
  obtain ⟨s, h, made⟩ := Outcome.exists_ok_of_toOption names
  exact ⟨s, h, aliases_distinct h, made⟩

end BoundSelect
