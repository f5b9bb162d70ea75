import BoundSelect.Proofs.Text.Outside

set_option autoImplicit false

namespace BoundSelect.Text

def isPlain (c : Char) : Bool :=
  c.isAlphanum || c ∈ ['_', '$', '.', ',', '*', '(', ')', '=', '<', '>', ':', ' ', '\n']

-- The plain characters of words and names, which start no placeholder and nest nothing.
def isWordly (c : Char) : Bool := isPlain c && c ∉ ['(', ')', ':']

structure Sober (s : String) : Prop where
  noNul : '\x00' ∉ s.toList
  plain : ∀ c ∈ outside false s.toList, c = '"' ∨ isPlain c
  nested : ∀ n, depth n (outside false s.toList) = some n

-- Sobriety is asked for only where no operand is written out as it is.
structure Piece (sober : Prop) (keys : List String) (s : String) : Prop where
  closed : openQuote false s.toList = false
  marked : ∀ rest, Stops rest → marks (outside false s.toList ++ rest) = keys.map some ++ marks rest
  sobered : sober → Sober s

variable {sober : Prop} {keys others : List String} {s t : String}

theorem Sober.append (hs : Sober s) (ht : Sober t) (closed : openQuote false s.toList = false) :
    Sober (s ++ t) where
  noNul := by simp [hs.noNul, ht.noNul]
  plain := by
    intro c hc
    rw [String.toList_append, outside_append, closed] at hc
    rcases List.mem_append.1 hc with hc | hc
    · exact hs.plain c hc
    · exact ht.plain c hc
  nested := by
    intro n
    rw [String.toList_append, outside_append, closed, depth_append, hs.nested]
    exact ht.nested n

theorem Sober.parenthesize (hs : Sober s) (closed : openQuote false s.toList = false) :
    Sober ("(" ++ s ++ ")") := by
  have out : outside false ("(" ++ s ++ ")").toList = '(' :: (outside false s.toList ++ [')']) := by
    simp [outside, outside_append, closed]
  refine ⟨by simp [hs.noNul], ?_, ?_⟩
  · intro c hc
    rw [out] at hc
    simp only [List.mem_cons, List.mem_append, List.not_mem_nil, or_false] at hc
    rcases hc with rfl | hc | rfl
    · exact .inr (by decide)
    · exact hs.plain c hc
    · exact .inr (by decide)
  · intro n
    rw [out, depth, if_pos rfl, depth_append, hs.nested]
    simp [depth]

namespace Piece

theorem marks_eq (h : Piece sober keys s) : marks (outside false s.toList) = keys.map some := by
  have stop : Stops [] := by simp [Stops]
  simpa [marks] using h.marked [] stop

-- A placeholder at the end of the first piece must not be carried on by digits of the second one.
theorem append (hs : Piece sober keys s) (ht : Piece sober others t)
    (stop : Stops (outside false t.toList)) : Piece sober (keys ++ others) (s ++ t) where
  closed := by rw [String.toList_append, openQuote_append, hs.closed, ht.closed]
  marked := by
    intro rest stops
    rw [String.toList_append, outside_append, hs.closed, List.append_assoc,
      hs.marked _ (stop.append stops), ht.marked rest stops, List.map_append, List.append_assoc]
  sobered := fun h => (hs.sobered h).append (ht.sobered h) hs.closed

theorem append_of_quiet (hs : Piece sober [] s) (ht : Piece sober keys t) :
    Piece sober keys (s ++ t) where
  closed := by rw [String.toList_append, openQuote_append, hs.closed, ht.closed]
  marked := by
    intro rest stops
    have quiet : ':' ∉ outside false s.toList := notMem_of_marks_eq_nil hs.marks_eq
    rw [String.toList_append, outside_append, hs.closed, List.append_assoc,
      marks_append_of_notMem quiet, ht.marked rest stops]
  sobered := fun h => (hs.sobered h).append (ht.sobered h) hs.closed

theorem parenthesize (h : Piece sober keys s) : Piece sober keys ("(" ++ s ++ ")") where
  closed := by simp [openQuote, openQuote_append, h.closed]
  marked := by
    intro rest stops
    have stop : Stops (')' :: rest) := by simp [Stops]
    have out : outside false ("(" ++ s ++ ")").toList ++ rest =
        '(' :: (outside false s.toList ++ ')' :: rest) := by
      simp [outside, outside_append, h.closed]
    rw [out, marks, if_neg (by decide), h.marked _ stop, marks, if_neg (by decide)]
  sobered := fun strict => (h.sobered strict).parenthesize h.closed

theorem of_wordly (h : s.toList.all isWordly = true) : Piece sober [] s := by
  have all : ∀ c ∈ s.toList, isWordly c := List.all_eq_true.1 h
  have without {c : Char} (hc : isWordly c = false) : c ∉ s.toList := by
    intro mem
    simp [all c mem] at hc
  have out : outside false s.toList = s.toList := outside_of_notMem (without (by decide))
  refine ⟨openQuote_of_notMem (without (by decide)) false, ?_, fun _ => ⟨without (by decide), ?_, ?_⟩⟩
  · intro rest _
    rw [out, marks_append_of_notMem (without (by decide))]
    rfl
  · intro c hc
    rw [out] at hc
    have wordly := all c hc
    simp only [isWordly, Bool.and_eq_true] at wordly
    exact .inr wordly.1
  · intro n
    rw [out, depth_of_notMem (without (by decide)) (without (by decide))]

theorem of_quotes (closed : openQuote false s.toList = false)
    (quotes : ∀ c ∈ outside false s.toList, c = '"') (noNul : '\x00' ∉ s.toList) :
    Piece sober [] s where
  closed := closed
  marked := by
    intro rest _
    have quiet : ':' ∉ outside false s.toList := fun hc => by simpa using quotes ':' hc
    rw [marks_append_of_notMem quiet]
    rfl
  sobered := fun _ =>
    { noNul
      plain := fun c hc => .inl (quotes c hc)
      nested := depth_of_notMem (fun hc => by simpa using quotes '(' hc)
        (fun hc => by simpa using quotes ')' hc) }

theorem empty : Piece sober [] "" := of_wordly rfl

theorem of_notMem (quotes : '"' ∉ s.toList) (colons : ':' ∉ s.toList) : Piece False [] s where
  closed := openQuote_of_notMem quotes false
  marked := by
    intro rest _
    rw [outside_of_notMem quotes, marks_append_of_notMem colons]
    rfl
  sobered := False.elim

theorem join {α : Type} {l : List α} {text : α → String} {keysOf : α → List String}
    (h : ∀ a ∈ l, Piece sober (keysOf a) (text a))
    (stop : ∀ a ∈ l, Stops (outside false (text a).toList)) :
    Piece sober (l.flatMap keysOf) (String.join (l.map text)) ∧
      Stops (outside false (String.join (l.map text)).toList) := by
  induction l with
  | nil => exact ⟨.empty, by simp [Stops, outside, String.join_nil]⟩
  | cons a rest ih =>
    obtain ⟨others, stops⟩ := ih (fun b hb => h b (List.mem_cons_of_mem a hb))
      (fun b hb => stop b (List.mem_cons_of_mem a hb))
    have first := h a List.mem_cons_self
    rw [List.map_cons, String.join_cons, List.flatMap_cons]
    refine ⟨first.append others stops, ?_⟩
    rw [String.toList_append, outside_append, first.closed]
    exact (stop a List.mem_cons_self).append stops

theorem intercalate {α : Type} {l : List α} {text : α → String} {keysOf : α → List String}
    {sep : String} (between : Piece sober [] sep)
    (stop : ∀ rest, Stops (outside false sep.toList ++ rest))
    (h : ∀ a ∈ l, Piece sober (keysOf a) (text a)) :
    Piece sober (l.flatMap keysOf) (sep.intercalate (l.map text)) := by
  induction l with
  | nil => exact .empty
  | cons a rest ih =>
    have first := h a List.mem_cons_self
    have others := ih fun b hb => h b (List.mem_cons_of_mem a hb)
    cases rest with
    | nil => simpa using first
    | cons b more =>
      rw [List.map_cons, List.map_cons, String.intercalate_cons_cons, List.flatMap_cons,
        String.append_assoc]
      refine first.append (between.append_of_quiet others) ?_
      rw [String.toList_append, outside_append, between.closed]
      exact stop _

theorem intercalate_of_quiet {α : Type} {l : List α} {text : α → String} {sep : String}
    (between : Piece sober [] sep) (h : ∀ a ∈ l, Piece sober [] (text a)) :
    Piece sober [] (sep.intercalate (l.map text)) := by
  induction l with
  | nil => exact .empty
  | cons a rest ih =>
    have first := h a List.mem_cons_self
    have others := ih fun b hb => h b (List.mem_cons_of_mem a hb)
    cases rest with
    | nil => simpa using first
    | cons b more =>
      rw [List.map_cons, List.map_cons, String.intercalate_cons_cons]
      exact (first.append_of_quiet between).append_of_quiet others

end Piece

end BoundSelect.Text
