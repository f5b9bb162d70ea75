import BoundSelect.Proofs.Identifier.Dots
import BoundSelect.Proofs.Identifier.Writing
import BoundSelect.Proofs.Select.WellFormed

set_option autoImplicit false

namespace BoundSelect

open Outcome

namespace Column

def qualify (column owner : String) : Except Identifier.Flaw String :=
  (fun i => if i.isQualified then i.text else owner ++ "." ++ i.text) <$> Identifier.parseColumn column

def bare (column : String) : Except Identifier.Flaw String :=
  (fun i => i.bare.text) <$> Identifier.parseColumn column

theorem bare_eq_ok_iff {column d : String} :
    bare column = .ok d ↔ ∃ i, Identifier.parseColumn column = .ok i ∧ i.bare.text = d :=
  map_eq_ok_iff

theorem qualify_eq_ok_iff {column r : String} {owner : Name} :
    qualify column owner.text = .ok r ↔
      ∃ i, Identifier.parseColumn column = .ok i ∧ (i.qualify owner).text = r := by
  simp only [qualify, map_eq_ok_iff, Identifier.text_qualify]

theorem qualify_of_isQualified {column : String} {i : Identifier} (read : Identifier.parseColumn column = .ok i)
    (qualified : i.isQualified) (owner : String) : qualify column owner = .ok column := by
  have same := (Identifier.parseColumn_sound read).2
  rw [qualify, read, map_eq_ok _ rfl, if_pos qualified, same]

end Column

namespace Identifier

theorem isQualified_qualify (owner : Name) (i : Identifier) : (i.qualify owner).isQualified := by
  by_cases qualified : i.isQualified
  · rwa [qualify, if_pos qualified]
  · rw [qualify, if_neg qualified]
    rfl

theorem two_le_length_parts {i : Identifier} (qualified : i.isQualified) : 2 ≤ i.parts.length := by
  rcases i with ⟨_ | ⟨n, path⟩, last⟩
  · cases qualified
  · simp [parts]

theorem text_qualify_bare (owner : Name) (i : Identifier) :
    (i.bare.qualify owner).text = owner.text ++ "." ++ i.bare.text := by
  rw [text_qualify]
  rfl

theorem qualifying_stable {a : String} {owner : Name} (named : Name.parse a = .ok owner) (column b : String) :
    ((∃ r, Column.qualify column a = .ok r) ↔ ∃ i, parseColumn column = .ok i) ∧
      ∀ r, Column.qualify column a = .ok r →
        (∃ i, parseColumn column = .ok i ∧ parseColumn r = .ok (i.qualify owner) ∧
            2 ≤ (i.qualify owner).parts.length) ∧
          Column.qualify r b = .ok r ∧
          ∃ d, Column.bare column = .ok d ∧ Column.bare r = .ok d ∧
            ∃ i, parseColumn (a ++ "." ++ d) = .ok i ∧ 2 ≤ i.parts.length ∧ i.bare.text = d := by
  obtain ⟨fine, rfl⟩ := Name.parse_sound named
  constructor
  · constructor
    · rintro ⟨r, made⟩
      obtain ⟨i, read, -⟩ := Column.qualify_eq_ok_iff.1 made
      exact ⟨i, read⟩
    · rintro ⟨i, read⟩
      exact ⟨_, Column.qualify_eq_ok_iff.2 ⟨i, read, rfl⟩⟩
  · intro r made
    obtain ⟨i, read, rfl⟩ := Column.qualify_eq_ok_iff.1 made
    obtain ⟨fineColumn, -⟩ := parseColumn_sound read
    have back : parseColumn (i.qualify owner).text = .ok (i.qualify owner) :=
      (fineColumn.qualify fine).parseColumn_text
    have again : parseColumn (owner.text ++ "." ++ i.bare.text) = .ok (i.bare.qualify owner) := by
      rw [← text_qualify_bare]
      exact (fineColumn.bare.qualify fine).parseColumn_text
    have qualified := isQualified_qualify owner i
    refine ⟨⟨i, read, back, two_le_length_parts qualified⟩, Column.qualify_of_isQualified back qualified b,
      i.bare.text, ?_, ?_, i.bare.qualify owner, again, two_le_length_parts (isQualified_qualify owner i.bare), ?_⟩
    · exact Column.bare_eq_ok_iff.2 ⟨i, read, rfl⟩
    · exact Column.bare_eq_ok_iff.2 ⟨i.qualify owner, back, by rw [bare_qualify]⟩
    · rw [bare_qualify]
      rfl

theorem qualifying_stable_dotted :
    let column := "\"net.\"\"sum\"\"\""
    let r := "\"our.shop\".\"net.\"\"sum\"\"\""
    (Name.parse "\"our.shop\"" = .ok (.quoted "our.shop") ∧ Column.qualify column "\"our.shop\"" = .ok r) ∧
      Column.qualify r "u0" = .ok r ∧ Column.bare r = Column.bare column := by
  intro column r
  have named : Name.parse "\"our.shop\"" = .ok (.quoted "our.shop") := by decide +kernel
  have made : Column.qualify column "\"our.shop\"" = .ok r := by decide +kernel
  obtain ⟨-, kept, d, bareColumn, bareMade, -⟩ := (qualifying_stable named column "u0").2 r made
  exact ⟨⟨named, made⟩, kept, bareMade.trans bareColumn.symm⟩

end Identifier

end BoundSelect
