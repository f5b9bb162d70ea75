import BoundSelect.Value.Basic

set_option autoImplicit false

namespace BoundSelect

namespace Tag

def letter (d : Nat) : Char := Char.ofNat ('A'.toNat + d)

def digits (n : Nat) : List Nat := if n < 26 then [n] else digits (n / 26) ++ [n % 26]

-- A number in base 26, with three letters or more.
def letters (n : Nat) : List Char := ((digits n).map letter).leftpad 3 'A'

def text (n : Nat) : String := String.ofList (letters n)

end Tag

structure Slot where
  tag : Nat
  index : Nat
  value : Value

namespace Slot

def key (s : Slot) : String := Tag.text s.tag ++ toString s.index

def placeholder (s : Slot) : String := ":" ++ s.key

def ofValues (tag : Nat) (vs : List Value) : List Slot :=
  vs.zipIdx.map fun (v, i) => ⟨tag, i, v⟩

@[simp] theorem length_ofValues (tag : Nat) (vs : List Value) :
    (ofValues tag vs).length = vs.length := by
  simp [ofValues]

end Slot

end BoundSelect
