set_option autoImplicit false

namespace BoundSelect.Text

def blankRanges : List (Nat × Nat) :=
  [(0x09, 0x0D), (0x20, 0x20), (0x85, 0x85), (0xA0, 0xA0), (0x1680, 0x1680), (0x2000, 0x200A),
   (0x2028, 0x2029), (0x202F, 0x202F), (0x205F, 0x205F), (0x3000, 0x3000)]

def isBlank (c : Char) : Bool :=
  blankRanges.any fun range => range.1 ≤ c.toNat && c.toNat ≤ range.2

def isAllBlank (s : String) : Bool := s.toList.all isBlank

def trimEnd (cs : List Char) : List Char :=
  (cs.reverse.dropWhile isBlank).reverse

def trim (s : String) : String :=
  String.ofList (trimEnd (s.toList.dropWhile isBlank))

def runs : List Char → List (List Char)
  | [] => []
  | c :: rest =>
      if isBlank c then runs rest
      else (c :: rest.takeWhile (!isBlank ·)) :: runs (rest.dropWhile (!isBlank ·))
termination_by cs => cs.length
decreasing_by
  · simp
  · have := (List.dropWhile_sublist (!isBlank ·) (l := rest)).length_le
    simp only [List.length_cons]
    omega

def words (s : String) : List String := (runs s.toList).map String.ofList

end BoundSelect.Text
