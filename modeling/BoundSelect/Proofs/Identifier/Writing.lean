import BoundSelect.Proofs.Identifier.Pieces
import BoundSelect.Proofs.Identifier.Reading

set_option autoImplicit false

namespace BoundSelect

namespace Identifier

open Name (escape isStart isFollower)

theorem readQuoted_escape (content rest : List Char) (stop : rest.head? ≠ some '"') :
    readQuoted (escape content ++ '"' :: rest) = some (content, rest) := by
  induction content with
  | nil =>
    cases rest with
    | nil => rfl
    | cons c more =>
      have plain : c ≠ '"' := fun same => stop (congrArg some same)
      simp [escape, readQuoted, plain]
  | cons c more ih =>
    rw [escape] at ih
    by_cases quote : c = '"'
    · subst quote
      simp [escape, readQuoted, ih]
    · simp [escape, readQuoted, quote, ih]

theorem checkPlain_of_wellFormed {source letters : String} (h : (Name.plain letters).WellFormed) :
    checkPlain source letters.toList = .ok (.plain letters) := by
  obtain ⟨c, rest, spelled, start, follow⟩ := h
  have fits : rest.find? (fun d => !isFollower d) = none := by simpa using follow
  rw [spelled, checkPlain, start, fits, ← spelled, String.ofList_toList]
  rfl

-- A part ends where the text does, or at the dot before the next one.
def Ends (rest : List Char) : Prop := ∀ c ∈ rest.head?, c = '.'

theorem Ends.takeWhile_append {cs rest : List Char} (ends : Ends rest) (noDot : '.' ∉ cs) :
    (cs ++ rest).takeWhile (· != '.') = cs ∧ (cs ++ rest).dropWhile (· != '.') = rest := by
  apply Text.span_append
  · intro c hc
    simpa using fun same : c = '.' => noDot (same ▸ hc)
  · intro c hc
    simpa using ends c hc

theorem readPart_quoted {source : String} {allowStar : Bool} {content : String} {rest : List Char}
    (h : (Name.quoted content).WellFormed) (ends : Ends rest) :
    readPart source allowStar ((Name.quoted content).text.toList ++ rest) =
      .ok (.name (.quoted content), rest) := by
  have stop : rest.head? ≠ some '"' := by
    intro quote
    have dot := ends '"' quote
    cases dot
  rw [Name.toList_quoted, List.cons_append, List.append_assoc, List.singleton_append, readPart,
    readQuoted_escape _ _ stop]
  cases spelled : content.toList with
  | nil => exact absurd (String.toList_eq_nil_iff.1 spelled) h.1
  | cons c more =>
    show Except.ok (Part.name (.quoted (String.ofList (c :: more))), rest) = _
    rw [← spelled, String.ofList_toList]

theorem readPart_plain {source : String} {allowStar : Bool} {letters : String} {rest : List Char}
    (h : (Name.plain letters).WellFormed) (ends : Ends rest) :
    readPart source allowStar ((Name.plain letters).text.toList ++ rest) =
      .ok (.name (.plain letters), rest) := by
  have checked : checkPlain source letters.toList = .ok (.plain letters) := checkPlain_of_wellFormed h
  have follow := Name.isFollower_of_mem_plain h
  have noDot : '.' ∉ letters.toList := fun hd => absurd (follow _ hd) (by decide)
  obtain ⟨taken, left⟩ := ends.takeWhile_append noDot
  obtain ⟨c, more, spelled, -, -⟩ := h
  have first : isFollower c := follow c (spelled ▸ List.mem_cons_self)
  -- A bare name is told from the other parts by its first character.
  have noOther : ∀ d after, isFollower d = false → letters.toList ++ rest ≠ d :: after := by
    intro d after other same
    rw [spelled] at same
    obtain rfl := (List.cons.inj same).1
    simp [other] at first
  rw [Name.text, readPart]
  · rw [taken, left, checked]
  · exact fun after same => noOther '*' after rfl same
  · exact fun after same => noOther '"' after rfl same

theorem readPart_text {source : String} {allowStar : Bool} {p : Part} {rest : List Char}
    (h : p.WellFormed) (star : p = .star → allowStar = true) (ends : Ends rest) :
    readPart source allowStar (p.text.toList ++ rest) = .ok (p, rest) := by
  cases p with
  | star =>
    have allowed := star rfl
    subst allowed
    rfl
  | name n =>
    cases n with
    | quoted content => exact readPart_quoted h ends
    | plain letters => exact readPart_plain h ends

theorem readParts_of_last {source : String} {allowStar : Bool} {cs : List Char} {p : Part}
    (read : readPart source allowStar cs = .ok (p, [])) :
    readParts source allowStar cs = .ok { last := p } := by
  rw [readParts]
  split <;> simp_all

theorem readParts_of_name {source : String} {allowStar : Bool} {cs rest : List Char} {n : Name}
    {i : Identifier} (read : readPart source allowStar cs = .ok (.name n, '.' :: rest))
    (more : rest ≠ []) (tail : readParts source allowStar rest = .ok i) :
    readParts source allowStar cs = .ok { i with path := n :: i.path } := by
  rw [readParts]
  split <;> simp_all

theorem ne_nil_of_readParts {source : String} {allowStar : Bool} {cs : List Char} {i : Identifier}
    (h : readParts source allowStar cs = .ok i) : cs ≠ [] := by
  rintro rfl
  simp [readParts, readPart, checkPlain] at h

theorem readParts_text {source : String} {allowStar : Bool} {i : Identifier} (h : i.WellFormed)
    (star : i.last = .star → allowStar = true) :
    readParts source allowStar i.text.toList = .ok i := by
  rcases i with ⟨path, last⟩
  induction path with
  | nil =>
    have read : readPart source allowStar (last.text.toList ++ []) = .ok (last, []) :=
      readPart_text h.2 star (by simp [Ends])
    rw [List.append_nil] at read
    rw [text_last]
    exact readParts_of_last read
  | cons n path ih =>
    have fine : Identifier.WellFormed { path, last } :=
      ⟨fun m hm => h.1 m (List.mem_cons_of_mem n hm), h.2⟩
    have name : (Part.name n).WellFormed := h.1 n List.mem_cons_self
    have spelled : (Identifier.text { path := n :: path, last }).toList =
        (Part.name n).text.toList ++ '.' :: (Identifier.text { path, last }).toList := by
      rw [text_cons_path n { path, last }]
      simp [Part.text]
    have tail := ih fine star
    rw [spelled]
    exact readParts_of_name (readPart_text name (by simp) (by simp [Ends]))
      (ne_nil_of_readParts tail) tail

theorem read_text {allowStar : Bool} {i : Identifier} (h : i.WellFormed)
    (star : i.last = .star → allowStar = true) : read allowStar i.text = .ok i := by
  have parts : readParts i.text allowStar i.text.toList = .ok i := readParts_text h star
  have piece : Text.Piece True [] i.text := h.piece
  exact read_eq_ok_iff.2 ⟨ne_nil_of_readParts parts, (piece.sobered trivial).noNul, parts⟩

theorem WellFormed.parseColumn_text {i : Identifier} (h : i.WellFormed) : parseColumn i.text = .ok i :=
  read_text h fun _ => rfl

end Identifier

theorem Name.WellFormed.parse_text {n : Name} (h : n.WellFormed) : Name.parse n.text = .ok n := by
  have fine : Identifier.WellFormed { last := .name n } := ⟨by simp, h⟩
  have read : Identifier.parse (Identifier.text { last := .name n }) = .ok { last := .name n } :=
    Identifier.read_text fine (by simp)
  rw [Identifier.text_last] at read
  exact Name.parse_eq_ok_iff.2 read

end BoundSelect
