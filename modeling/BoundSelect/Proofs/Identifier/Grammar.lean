import BoundSelect.Proofs.Identifier.Writing
import BoundSelect.Proofs.Outcome

set_option autoImplicit false

namespace BoundSelect

open Outcome

namespace Parts

def text (ps : List Part) : String := ".".intercalate (ps.map Part.text)

structure WellFormed (ps : List Part) : Prop where
  filled : ps ≠ []
  each : ∀ p ∈ ps, p.WellFormed
  starLast : .star ∉ ps.dropLast

theorem exists_path {ps : List Part} (noStar : .star ∉ ps) : ∃ path : List Name, path.map .name = ps := by
  induction ps with
  | nil => exact ⟨[], rfl⟩
  | cons p rest ih =>
    rw [List.mem_cons, not_or] at noStar
    obtain ⟨path, rfl⟩ := ih noStar.2
    cases p with
    | name n => exact ⟨n :: path, rfl⟩
    | star => exact absurd rfl noStar.1

end Parts

namespace Identifier

theorem text_parts (i : Identifier) : Parts.text i.parts = i.text := rfl

theorem star_mem_parts {i : Identifier} : .star ∈ i.parts ↔ i.last = .star := by
  simp [parts, eq_comm]

theorem wellFormed_parts {i : Identifier} : Parts.WellFormed i.parts ↔ i.WellFormed := by
  have each : (∀ p ∈ i.parts, p.WellFormed) ↔ i.WellFormed := by
    simp [parts, Identifier.WellFormed, Part.WellFormed, or_imp, forall_and]
  have starLast : .star ∉ i.parts.dropLast := by simp [parts]
  constructor
  · intro h
    exact each.1 h.each
  · intro h
    exact ⟨i.parts_ne_nil, each.2 h, starLast⟩

theorem exists_parts {ps : List Part} (h : Parts.WellFormed ps) : ∃ i : Identifier, i.parts = ps := by
  obtain ⟨path, names⟩ := Parts.exists_path h.starLast
  refine ⟨{ path, last := ps.getLast h.filled }, ?_⟩
  rw [parts, names, List.dropLast_append_getLast]

theorem allowStar_of_readPart {source : String} {allowStar : Bool} {cs rest : List Char}
    (h : readPart source allowStar cs = .ok (.star, rest)) : allowStar = true := by
  fun_cases readPart source allowStar cs with
  | case1 after star => exact star
  | case7 cs notStar notQuote name checked => simp [readPart, checked] at h
  | _ => simp_all [readPart]

theorem allowStar_of_readParts {source : String} {allowStar : Bool} {cs : List Char} {i : Identifier}
    (h : readParts source allowStar cs = .ok i) (star : i.last = .star) : allowStar = true := by
  fun_induction readParts source allowStar cs generalizing i with
  | case2 cs part read =>
    obtain rfl := Except.ok.inj h
    obtain rfl : part = .star := star
    exact allowStar_of_readPart read
  | case7 cs n c rest read dot more tail readTail ih =>
    obtain rfl := Except.ok.inj h
    exact ih readTail star
  | _ => simp at h

theorem read_eq_ok_iff_text {allowStar : Bool} {source : String} {i : Identifier} :
    read allowStar source = .ok i ↔
      i.WellFormed ∧ i.text = source ∧ (i.last = .star → allowStar = true) := by
  constructor
  · intro h
    obtain ⟨fine, same⟩ := read_sound h
    obtain ⟨-, -, parts⟩ := read_eq_ok_iff.1 h
    exact ⟨fine, same, allowStar_of_readParts parts⟩
  · rintro ⟨fine, rfl, star⟩
    exact read_text fine star

theorem parts_read_eq_ok_iff {allowStar : Bool} {source : String} {ps : List Part} :
    parts <$> read allowStar source = .ok ps ↔
      Parts.WellFormed ps ∧ Parts.text ps = source ∧ (.star ∈ ps → allowStar = true) := by
  rw [map_eq_ok_iff]
  constructor
  · rintro ⟨i, h, rfl⟩
    obtain ⟨fine, same, star⟩ := read_eq_ok_iff_text.1 h
    exact ⟨wellFormed_parts.2 fine, i.text_parts.trans same, fun mem => star (star_mem_parts.1 mem)⟩
  · rintro ⟨fine, same, star⟩
    obtain ⟨i, rfl⟩ := exists_parts fine
    have read := read_eq_ok_iff_text.2
      ⟨wellFormed_parts.1 fine, i.text_parts.symm.trans same, fun last => star (star_mem_parts.2 last)⟩
    exact ⟨i, read, rfl⟩

theorem parts_of_text (source : String) (ps : List Part) :
    (parts <$> parseColumn source = .ok ps ↔ Parts.WellFormed ps ∧ Parts.text ps = source) ∧
      (parts <$> parse source = .ok ps ↔
        (Parts.WellFormed ps ∧ Parts.text ps = source) ∧ .star ∉ ps) := by
  constructor
  · rw [parseColumn, parts_read_eq_ok_iff]
    simp
  · rw [parse, parts_read_eq_ok_iff]
    simp [and_assoc]

-- A quote inside of a name is doubled, and a dot between quotes separates nothing.
example : parts <$> parseColumn "shop.\"a.\"\"b\"\"\".*" =
    .ok [.name (.plain "shop"), .name (.quoted "a.\"b\""), .star] := by
  decide +kernel

end Identifier

end BoundSelect
