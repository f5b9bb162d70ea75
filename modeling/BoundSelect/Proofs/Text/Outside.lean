import BoundSelect.Proofs.Text.Letters

set_option autoImplicit false

namespace BoundSelect.Text

-- Whether a double quote is open at the end. Each one toggles, so a doubled quote closes and opens.
def openQuote : Bool → List Char → Bool
  | opened, [] => opened
  | opened, c :: rest => openQuote (if c = '"' then !opened else opened) rest

-- Nothing is cut out, so characters that were apart stay apart.
def outside : Bool → List Char → List Char
  | _, [] => []
  | opened, c :: rest =>
      (if opened then '"' else c) :: outside (if c = '"' then !opened else opened) rest

def keyAt (cs : List Char) : Option String :=
  let letters := cs.takeWhile Char.isUpper
  let digits := (cs.dropWhile Char.isUpper).takeWhile Char.isDigit
  if letters = [] ∨ digits = [] then none else some (String.ofList (letters ++ digits))

def marks : List Char → List (Option String)
  | [] => []
  | c :: rest => if c = ':' then keyAt rest :: marks rest else marks rest

-- There is none if a parenthesis is closed that was not opened.
def depth : Nat → List Char → Option Nat
  | n, [] => some n
  | n, c :: rest =>
      if c = '(' then depth (n + 1) rest
      else if c = ')' then if n = 0 then none else depth (n - 1) rest
      else depth n rest

theorem openQuote_append (opened : Bool) (cs ds : List Char) :
    openQuote opened (cs ++ ds) = openQuote (openQuote opened cs) ds := by
  induction cs generalizing opened with
  | nil => rfl
  | cons c rest ih => simp only [List.cons_append, openQuote, ih]

theorem outside_append (opened : Bool) (cs ds : List Char) :
    outside opened (cs ++ ds) = outside opened cs ++ outside (openQuote opened cs) ds := by
  induction cs generalizing opened with
  | nil => rfl
  | cons c rest ih => simp only [List.cons_append, outside, openQuote, ih]

theorem openQuote_of_notMem {cs : List Char} (h : '"' ∉ cs) (opened : Bool) :
    openQuote opened cs = opened := by
  induction cs with
  | nil => rfl
  | cons c rest ih =>
    simp only [List.mem_cons, not_or] at h
    rw [openQuote, if_neg (Ne.symm h.1), ih h.2]

theorem outside_of_notMem {cs : List Char} (h : '"' ∉ cs) : outside false cs = cs := by
  induction cs with
  | nil => rfl
  | cons c rest ih =>
    simp only [List.mem_cons, not_or] at h
    simp [outside, Ne.symm h.1, ih h.2]

theorem depth_append (n : Nat) (cs ds : List Char) :
    depth n (cs ++ ds) = (depth n cs).bind (depth · ds) := by
  induction cs generalizing n with
  | nil => rfl
  | cons c rest ih =>
    simp only [List.cons_append, depth, ih]
    split <;> try split <;> try split
    all_goals rfl

theorem depth_of_notMem {cs : List Char} (opens : '(' ∉ cs) (closes : ')' ∉ cs) (n : Nat) :
    depth n cs = some n := by
  induction cs with
  | nil => rfl
  | cons c rest ih =>
    simp only [List.mem_cons, not_or] at opens closes
    rw [depth, if_neg (Ne.symm opens.1), if_neg (Ne.symm closes.1), ih opens.2 closes.2]

theorem marks_append_of_notMem {cs : List Char} (h : ':' ∉ cs) (ds : List Char) :
    marks (cs ++ ds) = marks ds := by
  induction cs with
  | nil => rfl
  | cons c rest ih =>
    simp only [List.mem_cons, not_or] at h
    rw [List.cons_append, marks, if_neg (Ne.symm h.1), ih h.2]

theorem notMem_of_marks_eq_nil {cs : List Char} (h : marks cs = []) : ':' ∉ cs := by
  induction cs with
  | nil => simp
  | cons c rest ih =>
    by_cases hc : c = ':'
    · simp [marks, hc] at h
    · rw [marks, if_neg hc] at h
      simp only [List.mem_cons, not_or]
      exact ⟨Ne.symm hc, ih h⟩

-- A key that stands before these characters ends there.
def Stops (cs : List Char) : Prop := ∀ c, cs.head? = some c → c.isDigit = false

theorem Stops.append {cs ds : List Char} (first : Stops cs) (second : Stops ds) :
    Stops (cs ++ ds) := by
  cases cs with
  | nil => exact second
  | cons c rest => exact first

theorem span_letters {letters digits : List Char} (upper : ∀ c ∈ letters, c.isUpper)
    (decimal : ∀ c ∈ digits, c.isDigit) (someDigit : digits ≠ []) (rest : List Char) :
    (letters ++ (digits ++ rest)).takeWhile Char.isUpper = letters ∧
      (letters ++ (digits ++ rest)).dropWhile Char.isUpper = digits ++ rest := by
  apply span_append upper
  cases digits with
  | nil => exact absurd rfl someDigit
  | cons d more =>
    rintro c ⟨⟩
    exact isUpper_eq_false_of_isDigit (decimal d List.mem_cons_self)

theorem keyAt_append {letters digits rest : List Char} (someLetter : letters ≠ [])
    (someDigit : digits ≠ []) (upper : ∀ c ∈ letters, c.isUpper) (decimal : ∀ c ∈ digits, c.isDigit)
    (stop : Stops rest) :
    keyAt (letters ++ (digits ++ rest)) = some (String.ofList (letters ++ digits)) := by
  obtain ⟨taken, dropped⟩ := span_letters upper decimal someDigit rest
  have allDigits := (span_append decimal stop).1
  simp [keyAt, taken, dropped, allDigits, someLetter, someDigit]

end BoundSelect.Text
