import BoundSelect.Proofs.Identifier.Pieces
import BoundSelect.Proofs.Placeholder.Keys
import BoundSelect.Proofs.Select.WellFormed

set_option autoImplicit false

namespace BoundSelect

open Text

variable {sober : Prop}

namespace Slot

theorem piece (s : Slot) : Piece sober [s.key] s.placeholder := by
  have chars : ∀ c ∈ s.key.toList, c.isUpper ∨ c.isDigit := by
    intro c hc
    rw [toList_key] at hc
    exact (List.mem_append.1 hc).imp Tag.isUpper_of_mem_letters isDigit_of_mem_index
  have ne {d : Char} (upper : d.isUpper = false) (digit : d.isDigit = false) :
      d ∉ s.key.toList := by
    intro hd
    rcases chars d hd with h | h
    · simp [upper] at h
    · simp [digit] at h
  have spelled : s.placeholder.toList = ':' :: s.key.toList := by simp [placeholder]
  have noQuote : '"' ∉ s.placeholder.toList := by
    rw [spelled]
    exact List.not_mem_cons_of_ne_of_not_mem (by decide) (ne rfl rfl)
  have out : outside false s.placeholder.toList = ':' :: s.key.toList := by
    rw [outside_of_notMem noQuote, spelled]
  refine ⟨openQuote_of_notMem noQuote false, ?_, fun _ => ⟨?_, ?_, ?_⟩⟩
  · intro rest stop
    rw [out, List.cons_append, marks, if_pos rfl, keyAt_key s stop,
      marks_append_of_notMem (ne rfl rfl)]
    rfl
  · rw [spelled]
    exact List.not_mem_cons_of_ne_of_not_mem (by decide) (ne rfl rfl)
  · intro c hc
    rw [out] at hc
    rcases List.mem_cons.1 hc with rfl | hc
    · exact .inr (by decide)
    · refine .inr ?_
      rcases chars c hc with h | h
      · simp [isPlain, Char.isAlphanum, isAlpha_iff.2 (.inl h)]
      · simp [isPlain, Char.isAlphanum, h]
  · intro n
    rw [out, depth_of_notMem]
    · exact List.not_mem_cons_of_ne_of_not_mem (by decide) (ne rfl rfl)
    · exact List.not_mem_cons_of_ne_of_not_mem (by decide) (ne rfl rfl)

theorem stops_placeholder (s : Slot) : Stops (outside false s.placeholder.toList) := by
  simp [placeholder, outside, Stops]

end Slot

namespace Term

def keys (t : Term) : List String := t.allSlots.map Slot.key

theorem piece_slot (s : Slot) : Piece sober (slot s).keys (slot s).text :=
  (Piece.of_wordly rfl).append_of_quiet s.piece

theorem piece_slots (ss : List Slot) : Piece sober (slots ss).keys (slots ss).text := by
  have items : Piece sober (ss.flatMap fun s => [s.key]) (",".intercalate (ss.map Slot.placeholder)) :=
    Piece.intercalate (Piece.of_wordly rfl) (fun _ => by simp [Stops, outside]) fun s _ => s.piece
  rw [← List.map_eq_flatMap] at items
  exact (Piece.of_wordly rfl).append_of_quiet items.parenthesize

theorem piece_range (low high : Slot) : Piece sober (range low high).keys (range low high).text := by
  have first : Piece sober [low.key] (" " ++ low.placeholder) :=
    (Piece.of_wordly rfl).append_of_quiet low.piece
  have second : Piece sober ([low.key] ++ []) (" " ++ low.placeholder ++ " AND ") :=
    first.append (Piece.of_wordly rfl) (by simp [Stops, outside])
  exact second.append high.piece high.stops_placeholder

end Term

theorem Predicate.Bound.piece {o : Operator} {operand : Operand} {tag : Nat} {t : Term}
    (bound : Bound tag o operand t) : Piece sober t.keys t.text := by
  cases bound with
  | nothing test => exact .empty
  | one v compares => exact Term.piece_slot _
  | some vs listed => exact Term.piece_slots _
  | two low high => exact Term.piece_range _ _

def Term.IsPiece (sober : Prop) (t : Term) : Prop := Piece sober t.keys t.text

theorem Operator.piece (o : Operator) : Piece sober [] o.text := by
  cases o <;> exact Piece.of_wordly rfl

theorem Test.WellFormed.piece {t : Test} (h : t.WellFormed (Term.IsPiece sober)) :
    Piece sober t.term.keys t.text :=
  ((h.column.piece.append_of_quiet (Piece.of_wordly rfl)).append_of_quiet
    t.operator.piece).append_of_quiet h.term

def testKeys (tests : List Test) : List String := tests.flatMap fun t => t.term.keys

theorem piece_conjunction {tests : List Test} (h : ∀ t ∈ tests, t.WellFormed (Term.IsPiece sober)) :
    Piece sober (testKeys tests) (conjunction tests) :=
  Piece.intercalate (Piece.of_wordly rfl) (fun _ => by simp [Stops, outside]) fun t ht => (h t ht).piece

theorem Source.WellFormed.piece {s : Source} (h : s.WellFormed) : Piece sober [] s.text :=
  (h.1.piece.append_of_quiet (Piece.of_wordly rfl)).append_of_quiet h.2.piece

namespace JoinedSource

theorem piece_sideText (side : Option Side) : Piece sober [] (sideText side) := by
  rcases side with _ | side
  · exact .empty
  · cases side <;> exact Piece.of_wordly rfl

theorem WellFormed.piece {j : JoinedSource} (h : j.WellFormed (Term.IsPiece sober)) :
    Piece sober (testKeys j.on) j.text := by
  have head : Piece sober [] ("\n" ++ sideText j.side ++ "JOIN " ++ j.source.text) :=
    (((Piece.of_wordly rfl).append_of_quiet (piece_sideText j.side)).append_of_quiet
      (Piece.of_wordly rfl)).append_of_quiet h.source.piece
  refine head.append_of_quiet ?_
  split
  next none =>
    rw [List.isEmpty_iff.1 none]
    exact .empty
  next => exact (Piece.of_wordly rfl).append_of_quiet (piece_conjunction h.on)

theorem stops_text (j : JoinedSource) : Stops (outside false j.text.toList) := by
  simp [text, outside, Stops]

end JoinedSource

namespace Segment

theorem piece_whereText {filters : List Test}
    (h : ∀ t ∈ filters, t.WellFormed (Term.IsPiece sober)) :
    Piece sober (testKeys filters) (whereText filters) := by
  unfold whereText
  split
  next none =>
    rw [List.isEmpty_iff.1 none]
    exact .empty
  next => exact (Piece.of_wordly rfl).append_of_quiet (piece_conjunction h)

theorem stops_whereText (filters : List Test) : Stops (outside false (whereText filters).toList) := by
  unfold whereText
  split <;> simp [outside, Stops]

theorem WellFormed.piece {s : Segment} (h : s.WellFormed (Term.IsPiece sober)) :
    Piece sober (testKeys s.tests) s.text := by
  have head : Piece sober []
      ("SELECT " ++ ",".intercalate (s.columns.map Identifier.text) ++ " FROM " ++ s.source.text) :=
    (((Piece.of_wordly rfl).append_of_quiet (Identifier.piece_list h.columns)).append_of_quiet
      (Piece.of_wordly rfl)).append_of_quiet h.source.piece
  obtain ⟨joins, -⟩ := Piece.join (fun j hj => (h.joins j hj).piece) fun j _ => j.stops_text
  have keys : testKeys s.tests =
      s.joins.flatMap (fun j => testKeys j.on) ++ testKeys s.filters := by
    simp [testKeys, tests, List.flatMap_assoc]
  rw [keys]
  exact (head.append_of_quiet joins).append (piece_whereText h.filters) (stops_whereText s.filters)

theorem stops_text (s : Segment) : Stops (outside false s.text.toList) := by
  simp [text, outside, Stops]

end Segment

theorem piece_unionText (kind : Option UnionKind) : Piece sober [] (unionText kind) := by
  rcases kind with _ | kind
  · exact Piece.of_wordly rfl
  · cases kind <;> exact Piece.of_wordly rfl

theorem stops_unionText (kind : Option UnionKind) :
    Stops (outside false (unionText kind).toList) := by
  rcases kind with _ | kind
  · simp [unionText, outside, Stops]
  · simp [unionText, outside, Stops]

theorem Chain.WellFormed.piece {c : Chain} (h : c.WellFormed (Term.IsPiece sober)) :
    Piece sober (c.slots.map Slot.key) c.text := by
  have part : ∀ s ∈ c.closed, Piece sober (testKeys s.1.tests) (s.1.text ++ unionText s.2) := by
    intro s hs
    have whole := (h.closed s hs).piece.append (piece_unionText s.2) (stops_unionText s.2)
    rwa [List.append_nil] at whole
  have stop : ∀ s ∈ c.closed, Stops (outside false (s.1.text ++ unionText s.2).toList) := by
    intro s _
    simp [Segment.text, outside, Stops]
  have keys : c.slots.map Slot.key =
      c.closed.flatMap (fun s => testKeys s.1.tests) ++ testKeys c.last.tests := by
    simp [slots, segments, testKeys, Term.keys, List.map_flatMap, List.flatMap_map]
  rw [keys]
  exact (Piece.join part stop).1.append h.last.piece c.last.stops_text

theorem isWordly_of_isDigit {c : Char} (h : c.isDigit) : isWordly c :=
  isWordly_of_isFollower (by simp [Name.isFollower, Char.isAlphanum, h])

theorem piece_toString (n : UInt64) : Piece sober [] (toString n) := by
  apply Piece.of_wordly
  refine List.all_eq_true.2 fun c hc => isWordly_of_isDigit ?_
  have digits : (toString n).toList = Nat.toDigits 10 n.toNat := Nat.toList_repr
  exact Slot.isDigit_of_mem_index (digits ▸ hc)

namespace Limit

def offsetText (l : Limit) : String :=
  match l.offset with
  | some offset => if offset > 0 then " OFFSET " ++ toString offset else ""
  | none => ""

theorem text_eq (l : Limit) : l.text = " LIMIT " ++ toString l.limit ++ l.offsetText := by
  rcases l with ⟨limit, _ | offset⟩
  · exact String.append_empty.symm
  · by_cases skip : offset > 0
    · simp only [text, offsetText, if_pos skip]
      exact String.append_assoc
    · simp only [text, offsetText, if_neg skip]
      exact String.append_empty.symm

theorem piece (l : Limit) : Piece sober [] l.text := by
  have offset : Piece sober [] l.offsetText := by
    unfold offsetText
    split
    · split
      · exact (Piece.of_wordly rfl).append_of_quiet (piece_toString _)
      · exact .empty
    · exact .empty
  rw [text_eq]
  exact ((Piece.of_wordly rfl).append_of_quiet (piece_toString l.limit)).append_of_quiet offset

theorem stops_text (l : Limit) : Stops (outside false l.text.toList) := by
  simp [text_eq, outside, Stops]

end Limit

theorem Sorting.piece {s : Sorting} (h : s.column.WellFormed) : Piece sober [] s.text := by
  have direction : Piece sober [] s.direction.text := by
    cases s.direction <;> exact Piece.of_wordly rfl
  exact (((Piece.of_wordly rfl).append_of_quiet h.piece).append_of_quiet
    (Piece.of_wordly rfl)).append_of_quiet direction

theorem piece_tailText {sorting : Option Sorting} (limit : Option Limit)
    (h : ∀ s ∈ sorting, s.column.WellFormed) : Piece sober [] (Select.tailText sorting limit) := by
  have first : Piece sober [] ((sorting.map Sorting.text).getD "") := by
    cases sorting with
    | none => exact .empty
    | some s => exact Sorting.piece (h s rfl)
  have second : Piece sober [] ((limit.map Limit.text).getD "") := by
    cases limit with
    | none => exact .empty
    | some l => exact l.piece
  exact first.append_of_quiet second

theorem stops_tailText (sorting : Option Sorting) (limit : Option Limit) :
    Stops (outside false (Select.tailText sorting limit).toList) := by
  cases sorting with
  | some s => simp [Select.tailText, Sorting.text, outside, Stops]
  | none =>
    cases limit with
    | some l => simpa [Select.tailText] using l.stops_text
    | none => simp [Select.tailText, outside, Stops]

theorem Select.WellFormed.piece {s : Select} (h : s.WellFormed (Term.IsPiece sober)) :
    Piece sober (s.chain.slots.map Slot.key) s.text := by
  have whole := h.chain.piece.append (piece_tailText s.limit h.sorting) (stops_tailText s.sorting s.limit)
  rwa [List.append_nil] at whole

namespace RecursiveStatement

theorem columns_eq_some_iff {s : RecursiveStatement} {columns : List Identifier} :
    s.columns? = some columns ↔
      (∀ c ∈ s.base.select.chain.main.columns, c.last ≠ .star) ∧
        s.base.select.chain.main.columns.map Identifier.bare = columns := by
  simp only [columns?, Option.ite_none_left_eq_some, Option.some.injEq, List.any_map,
    Bool.not_eq_true, List.any_eq_false, Function.comp_def, Identifier.bare]
  exact and_congr_left' (forall₂_congr fun _ _ => decide_eq_false_iff_not)

theorem WellFormed.piece_columnsText {T : Term → Prop} {s : RecursiveStatement}
    (h : s.WellFormed T) : Piece sober [] s.columnsText := by
  unfold columnsText
  split
  next => exact .empty
  next columns named =>
    obtain ⟨-, rfl⟩ := columns_eq_some_iff.1 named
    have bare : ∀ i ∈ s.base.select.chain.main.columns.map Identifier.bare, i.WellFormed := by
      intro i hi
      obtain ⟨c, hc, rfl⟩ := List.mem_map.1 hi
      exact (h.select.chain.main.columns c hc).bare
    exact (Piece.of_wordly rfl).append_of_quiet (Identifier.piece_list bare).parenthesize

theorem text_eq (s : RecursiveStatement) :
    s.text = ("WITH RECURSIVE " ++ s.name.text ++ s.columnsText ++ "\n  AS " ++
      (inParentheses s.base.select.text ++
        ("\nSELECT * FROM " ++ s.name.text ++ Select.tailText s.sorting s.limit))) ++ ";" := by
  unfold text Statement.body
  generalize inParentheses s.base.select.text = body
  generalize Select.tailText s.sorting s.limit = tail
  generalize s.columnsText = columns
  generalize s.name.text = name
  simp only [String.append_assoc]

theorem WellFormed.piece {s : RecursiveStatement} (h : s.WellFormed (Term.IsPiece sober)) :
    ∃ body, s.text = body ++ ";" ∧ Piece sober (s.base.select.chain.slots.map Slot.key) body := by
  have head : Piece sober [] ("WITH RECURSIVE " ++ s.name.text ++ s.columnsText ++ "\n  AS ") :=
    (((Piece.of_wordly rfl).append_of_quiet h.name.piece).append_of_quiet
      h.piece_columnsText).append_of_quiet (Piece.of_wordly rfl)
  have outer : Piece sober []
      ("\nSELECT * FROM " ++ s.name.text ++ Select.tailText s.sorting s.limit) :=
    ((Piece.of_wordly rfl).append_of_quiet h.name.piece).append_of_quiet
      (piece_tailText s.limit h.sorting)
  have stop : Stops (outside false
      ("\nSELECT * FROM " ++ s.name.text ++ Select.tailText s.sorting s.limit).toList) := by
    rw [String.toList_append, String.toList_append, List.append_assoc]
    simp [outside, Stops]
  have whole := head.append_of_quiet (h.select.piece.parenthesize.append outer stop)
  rw [List.append_nil] at whole
  exact ⟨_, s.text_eq, whole⟩

end RecursiveStatement

end BoundSelect
