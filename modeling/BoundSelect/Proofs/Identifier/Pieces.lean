import BoundSelect.Identifier.Basic
import BoundSelect.Proofs.Text.Piece

set_option autoImplicit false

namespace BoundSelect

open Text

variable {sober : Prop}

theorem openQuote_escape (cs : List Char) : openQuote true (Name.escape cs) = true := by
  induction cs with
  | nil => rfl
  | cons c rest ih =>
    rw [Name.escape, List.flatMap_cons, openQuote_append]
    by_cases quote : c = '"' <;> simpa [openQuote, quote, Name.escape] using ih

theorem eq_quote_of_mem_outside {cs : List Char} :
    ∀ c ∈ outside true (Name.escape cs), c = '"' := by
  induction cs with
  | nil => simp [Name.escape, outside]
  | cons d rest ih =>
    intro c hc
    rw [Name.escape, List.flatMap_cons, outside_append] at hc
    by_cases quote : d = '"'
    · simp only [quote, if_true, outside, openQuote, Bool.not_true, Bool.not_false,
        List.mem_append, List.mem_cons] at hc
      rcases hc with (rfl | rfl | hc) | hc
      · rfl
      · rfl
      · simp at hc
      · exact ih c hc
    · simp only [quote, if_false, outside, openQuote, List.mem_append, List.mem_cons] at hc
      rcases hc with (rfl | hc) | hc
      · rfl
      · simp at hc
      · exact ih c hc

theorem isWordly_of_isFollower {c : Char} (h : Name.isFollower c) : isWordly c := by
  have ne {d : Char} (hd : Name.isFollower d = false) : c ≠ d := by
    rintro rfl
    simp [h] at hd
  simp only [Name.isFollower, Bool.or_eq_true, beq_iff_eq] at h
  have plain : isPlain c := by
    rcases h with (h | rfl) | rfl
    · simp [isPlain, h]
    · decide
    · decide
  simp [isWordly, plain, ne (d := '(') rfl, ne (d := ')') rfl, ne (d := ':') rfl]

namespace Name

theorem isFollower_of_isStart {c : Char} (h : isStart c) : isFollower c := by
  simp only [isStart, isFollower, Char.isAlphanum, Bool.or_eq_true] at h ⊢
  exact .inl (h.imp_left .inl)

theorem isFollower_of_mem_plain {letters : String} (h : (plain letters).WellFormed) :
    ∀ d ∈ letters.toList, isFollower d := by
  obtain ⟨c, rest, spelled, start, follow⟩ := h
  rw [spelled]
  intro d hd
  rcases List.mem_cons.1 hd with rfl | hd
  · exact isFollower_of_isStart start
  · exact follow d hd

theorem toList_quoted (content : String) :
    (quoted content).text.toList = '"' :: (escape content.toList ++ ['"']) := by
  simp [text]

theorem eq_quote_of_mem_outside_quoted {content : String} :
    ∀ c ∈ outside false (quoted content).text.toList, c = '"' := by
  intro c hc
  rw [toList_quoted] at hc
  simp only [outside, if_true, outside_append, Bool.not_false, openQuote_escape, List.mem_cons,
    List.mem_append, List.not_mem_nil, or_false] at hc
  rcases hc with rfl | hc | rfl
  · rfl
  · exact eq_quote_of_mem_outside c hc
  · rfl

theorem WellFormed.piece {n : Name} (h : n.WellFormed) : Piece sober [] n.text := by
  cases n with
  | plain letters =>
    apply Piece.of_wordly
    exact List.all_eq_true.2 fun d hd => isWordly_of_isFollower (isFollower_of_mem_plain h d hd)
  | quoted content =>
    obtain ⟨-, noNul⟩ := h
    refine Piece.of_quotes ?_ eq_quote_of_mem_outside_quoted ?_
    · rw [toList_quoted, openQuote, openQuote_append]
      simp [openQuote_escape, openQuote]
    · rw [toList_quoted]
      have inside : '\x00' ∉ escape content.toList := by
        intro hc
        obtain ⟨c, hc, made⟩ := List.mem_flatMap.1 hc
        split at made
        · simp at made
        · exact noNul (List.mem_singleton.1 made ▸ hc)
      simpa using inside

end Name

namespace Identifier

theorem WellFormed.piece {i : Identifier} (h : i.WellFormed) : Piece sober [] i.text := by
  have part : ∀ p ∈ i.parts, Piece sober [] p.text := by
    intro p hp
    rcases List.mem_append.1 hp with hp | hp
    · obtain ⟨n, hn, rfl⟩ := List.mem_map.1 hp
      exact (h.1 n hn).piece
    · rw [List.mem_singleton.1 hp]
      cases last : i.last with
      | name n =>
        have fine : i.last.WellFormed := h.2
        rw [last] at fine
        exact Name.WellFormed.piece fine
      | star => exact Piece.of_wordly rfl
  exact Piece.intercalate_of_quiet (Piece.of_wordly rfl) part

theorem piece_list {is : List Identifier} (h : ∀ i ∈ is, i.WellFormed) :
    Piece sober [] (",".intercalate (is.map Identifier.text)) :=
  Piece.intercalate_of_quiet (Piece.of_wordly rfl) fun i hi => (h i hi).piece

end Identifier

end BoundSelect
