import BoundSelect.Proofs.Identifier.Pieces
import BoundSelect.Proofs.Identifier.Reading

set_option autoImplicit false

namespace BoundSelect

namespace Text

def isQualified (column : String) : Bool := '.' ∈ outside false column.toList

-- Each dot outside of double quotes starts another part; `part` is what is read of the one so far.
def partAtEnd : Bool → List Char → List Char → List Char
  | _, part, [] => part
  | opened, part, c :: rest =>
      partAtEnd (if c = '"' then !opened else opened)
        (if c = '.' ∧ opened = false then [] else part ++ [c]) rest

def lastPart (column : String) : String := String.ofList (partAtEnd false [] column.toList)

theorem partAtEnd_of_notMem {opened : Bool} {cs : List Char} (part : List Char)
    (h : '.' ∉ outside opened cs) : partAtEnd opened part cs = part ++ cs := by
  induction cs generalizing opened part with
  | nil => simp [partAtEnd]
  | cons c rest ih =>
    simp only [outside, List.mem_cons, not_or] at h
    have inside : ¬(c = '.' ∧ opened = false) := by
      rintro ⟨rfl, rfl⟩
      exact h.1 rfl
    rw [partAtEnd, if_neg inside, ih _ h.2, List.append_assoc, List.singleton_append]

theorem partAtEnd_append_dot {opened : Bool} {cs : List Char} (part rest : List Char)
    (closed : openQuote opened cs = false) :
    partAtEnd opened part (cs ++ '.' :: rest) = partAtEnd false [] rest := by
  induction cs generalizing opened part with
  | nil =>
    obtain rfl : opened = false := closed
    simp [partAtEnd]
  | cons c more ih => exact ih _ closed

theorem lastPart_of_notMem {s : String} (h : '.' ∉ outside false s.toList) : lastPart s = s := by
  rw [lastPart, partAtEnd_of_notMem [] h, List.nil_append, String.ofList_toList]

theorem lastPart_append_dot {owner : String} (closed : openQuote false owner.toList = false)
    (s : String) : lastPart (owner ++ "." ++ s) = lastPart s := by
  have spelled : (owner ++ "." ++ s).toList = owner.toList ++ '.' :: s.toList := by simp
  rw [lastPart, spelled, partAtEnd_append_dot [] _ closed, lastPart]

theorem isQualified_append_dot {owner : String} (closed : openQuote false owner.toList = false)
    (s : String) : isQualified (owner ++ "." ++ s) := by
  have spelled : (owner ++ "." ++ s).toList = owner.toList ++ '.' :: s.toList := by simp
  simp [isQualified, spelled, outside_append, closed, outside]

end Text

open Text

theorem Name.WellFormed.closed {n : Name} (h : n.WellFormed) :
    openQuote false n.text.toList = false := by
  have piece : Piece True [] n.text := h.piece
  exact piece.closed

theorem Name.WellFormed.notMem_dot {n : Name} (h : n.WellFormed) :
    '.' ∉ outside false n.text.toList := by
  cases n with
  | plain letters =>
    have follow := Name.isFollower_of_mem_plain h
    have quotes : '"' ∉ letters.toList := fun hc => absurd (follow _ hc) (by decide)
    rw [Name.text, outside_of_notMem quotes]
    exact fun hc => absurd (follow _ hc) (by decide)
  | quoted content => exact fun hc => by simpa using Name.eq_quote_of_mem_outside_quoted _ hc

theorem Part.WellFormed.notMem_dot {p : Part} (h : p.WellFormed) :
    '.' ∉ outside false p.text.toList := by
  cases p with
  | name n => exact Name.WellFormed.notMem_dot h
  | star => decide

namespace Identifier

theorem WellFormed.isQualified_text {i : Identifier} (h : i.WellFormed) :
    Text.isQualified i.text = i.isQualified := by
  rcases i with ⟨_ | ⟨n, path⟩, last⟩
  · rw [text_last]
    exact decide_eq_false h.2.notMem_dot
  · rw [text_cons_path n { path, last }]
    exact isQualified_append_dot (h.1 n List.mem_cons_self).closed _

theorem WellFormed.lastPart_text {i : Identifier} (h : i.WellFormed) :
    lastPart i.text = i.bare.text := by
  rcases i with ⟨path, last⟩
  rw [bare, text_last]
  induction path with
  | nil => rw [text_last, lastPart_of_notMem h.2.notMem_dot]
  | cons n path ih =>
    rw [text_cons_path n { path, last }, lastPart_append_dot (h.1 n List.mem_cons_self).closed]
    exact ih ⟨fun m hm => h.1 m (List.mem_cons_of_mem n hm), h.2⟩

theorem text_qualify (owner : Name) (i : Identifier) :
    (i.qualify owner).text = if i.isQualified then i.text else owner.text ++ "." ++ i.text := by
  rcases i with ⟨_ | ⟨n, path⟩, last⟩
  · exact text_cons_path owner { last }
  · rfl

end Identifier

end BoundSelect
