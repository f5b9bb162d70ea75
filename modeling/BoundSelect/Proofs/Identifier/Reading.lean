import BoundSelect.Identifier.Reader

set_option autoImplicit false

namespace BoundSelect

namespace Identifier

open Name (escape)

@[simp] theorem text_last (last : Part) : Identifier.text { last } = last.text := by
  simp [Identifier.text, parts, String.intercalate_singleton]

@[simp] theorem text_cons_path (n : Name) (i : Identifier) :
    Identifier.text { i with path := n :: i.path } = n.text ++ "." ++ i.text := by
  have rest : i.parts.map Part.text ≠ [] := by simp [parts_ne_nil]
  simp only [Identifier.text, parts, List.map_cons, List.cons_append, Part.text]
  exact String.intercalate_cons_of_ne_nil rest

theorem escape_of_readQuoted {cs content after : List Char}
    (h : readQuoted cs = some (content, after)) : escape content ++ '"' :: after = cs := by
  fun_induction readQuoted cs generalizing content with
  | case1 => simp at h
  | case2 rest ih =>
    obtain ⟨⟨read, left⟩, found, e⟩ := Option.map_eq_some_iff.1 h
    obtain ⟨rfl, rfl⟩ := Prod.mk.inj e
    simpa [escape] using ih found
  | case3 rest =>
    obtain ⟨rfl, rfl⟩ := Prod.mk.inj (Option.some.inj h)
    rfl
  | case4 c rest notDoubled notQuote ih =>
    obtain ⟨⟨read, left⟩, found, e⟩ := Option.map_eq_some_iff.1 h
    obtain ⟨rfl, rfl⟩ := Prod.mk.inj e
    have plain : c ≠ '"' := fun same => notQuote same
    simpa [escape, plain] using ih found

theorem mem_of_mem_readQuoted {cs content after : List Char}
    (h : readQuoted cs = some (content, after)) {c : Char} (hc : c ∈ content) : c ∈ cs := by
  rw [← escape_of_readQuoted h]
  refine List.mem_append_left _ (List.mem_flatMap.2 ⟨c, hc, ?_⟩)
  split <;> simp_all

theorem checkPlain_sound {source : String} {cs : List Char} {n : Name}
    (h : checkPlain source cs = .ok n) : n.WellFormed ∧ n.text.toList = cs := by
  fun_cases checkPlain source cs with
  | case4 c rest start fits =>
    simp only [checkPlain, start, fits, Bool.false_eq_true, if_false, Except.ok.injEq] at h
    subst h
    have follow : ∀ d ∈ rest, Name.isFollower d := by simpa using fits
    exact ⟨⟨c, rest, by simp, by simpa using start, follow⟩, by simp [Name.text]⟩
  | _ => simp_all [checkPlain]

theorem readPart_sound {source : String} {allowStar : Bool} {cs rest : List Char} {part : Part}
    (noNul : '\x00' ∉ cs) (h : readPart source allowStar cs = .ok (part, rest)) :
    part.WellFormed ∧ part.text.toList ++ rest = cs := by
  fun_cases readPart source allowStar cs with
  | case1 after star =>
    simp only [readPart, star, if_true, Except.ok.injEq, Prod.mk.injEq] at h
    obtain ⟨rfl, rfl⟩ := h
    exact ⟨trivial, rfl⟩
  | case5 quoted content left notEmpty found =>
    simp only [readPart, found, Except.ok.injEq, Prod.mk.injEq] at h
    obtain ⟨rfl, rfl⟩ := h
    have inside : '\x00' ∉ content := fun hc =>
      noNul (List.mem_cons_of_mem _ (mem_of_mem_readQuoted found hc))
    refine ⟨⟨by simpa using notEmpty, by simpa using inside⟩, ?_⟩
    simp [Part.text, Name.text, ← escape_of_readQuoted found]
  | case7 cs notStar notQuote name checked =>
    simp only [readPart, checked, Except.ok.injEq, Prod.mk.injEq] at h
    obtain ⟨rfl, rfl⟩ := h
    obtain ⟨fine, same⟩ := checkPlain_sound checked
    exact ⟨fine, by rw [Part.text, same, List.takeWhile_append_dropWhile]⟩
  | _ => simp_all [readPart]

theorem readParts_sound {source : String} {allowStar : Bool} {cs : List Char} {i : Identifier}
    (noNul : '\x00' ∉ cs) (h : readParts source allowStar cs = .ok i) :
    i.WellFormed ∧ i.text.toList = cs := by
  fun_induction readParts source allowStar cs generalizing i with
  | case2 cs part read =>
    obtain rfl := Except.ok.inj h
    obtain ⟨fine, same⟩ := readPart_sound noNul read
    exact ⟨⟨by simp, fine⟩, by simpa using same⟩
  | case7 cs n c rest read dot more tail readTail ih =>
    obtain rfl := Except.ok.inj h
    obtain ⟨fineName, same⟩ := readPart_sound noNul read
    obtain rfl : c = '.' := by simpa using dot
    have noNulRest : '\x00' ∉ rest := fun hr =>
      noNul (same ▸ List.mem_append_right _ (List.mem_cons_of_mem _ hr))
    obtain ⟨fineTail, sameTail⟩ := ih noNulRest readTail
    refine ⟨⟨?_, fineTail.2⟩, ?_⟩
    · rintro m (_ | ⟨_, hm⟩)
      · exact fineName
      · exact fineTail.1 m hm
    · rw [text_cons_path, String.toList_append, String.toList_append, sameTail, ← same]
      simp [Part.text]
  | _ => simp at h

theorem read_eq_ok_iff {allowStar : Bool} {source : String} {i : Identifier} :
    read allowStar source = .ok i ↔ source.toList ≠ [] ∧ '\x00' ∉ source.toList ∧
      readParts source allowStar source.toList = .ok i := by
  by_cases empty : source.toList = [] <;> by_cases nul : '\x00' ∈ source.toList <;>
    simp_all [read]

theorem read_sound {allowStar : Bool} {source : String} {i : Identifier}
    (h : read allowStar source = .ok i) : i.WellFormed ∧ i.text = source := by
  obtain ⟨-, noNul, parts⟩ := read_eq_ok_iff.1 h
  obtain ⟨fine, same⟩ := readParts_sound noNul parts
  exact ⟨fine, String.toList_injective same⟩

theorem parse_sound {source : String} {i : Identifier} (h : parse source = .ok i) :
    i.WellFormed ∧ i.text = source := read_sound h

theorem parseColumn_sound {source : String} {i : Identifier} (h : parseColumn source = .ok i) :
    i.WellFormed ∧ i.text = source := read_sound h

end Identifier

theorem Name.parse_eq_ok_iff {source : String} {n : Name} :
    Name.parse source = .ok n ↔ Identifier.parse source = .ok { last := .name n } := by
  unfold Name.parse
  cases read : Identifier.parse source with
  | error flaw => simp [bind, Except.bind]
  | ok i =>
    rcases i with ⟨_ | ⟨m, path⟩, m | _⟩ <;>
      simp [bind, Except.bind, pure, Except.pure, throw, throwThe, MonadExceptOf.throw]

theorem Name.parse_sound {source : String} {n : Name} (h : Name.parse source = .ok n) :
    n.WellFormed ∧ n.text = source := by
  obtain ⟨fine, same⟩ := Identifier.parse_sound (Name.parse_eq_ok_iff.1 h)
  rw [Identifier.text_last] at same
  exact ⟨fine.2, same⟩

end BoundSelect
