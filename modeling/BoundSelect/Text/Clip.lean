set_option autoImplicit false

namespace BoundSelect.Text

def fitting : (room : Nat) → List Char → List Char
  | _, [] => []
  | room, c :: rest => if c.utf8Size ≤ room then c :: fitting (room - c.utf8Size) rest else []

-- A text that is too long is marked by dots, which the limit does not count.
def clip (limit : Option Nat) (s : String) : String :=
  match limit with
  | none => s
  | some limit =>
      if s.utf8ByteSize ≤ limit then s else String.ofList (fitting limit s.toList) ++ "..."

theorem fitting_isPrefix (room : Nat) (cs : List Char) : fitting room cs <+: cs := by
  fun_induction fitting room cs <;> simp_all

end BoundSelect.Text
