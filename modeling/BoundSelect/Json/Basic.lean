set_option autoImplicit false

namespace BoundSelect

inductive Number where
  | int (n : Int64)
  | big (n : UInt64) (large : Int64.maxValue.toNatClampNeg < n.toNat)
  | float (x : Float) (finite : x.isFinite = true)
  deriving DecidableEq

-- The kind of a number is a part of it, so 1 and 1.0 differ.
def Number.same : Number → Number → Bool
  | int m, int n => m == n
  | big m _, big n _ => m == n
  | float x _, float y _ => x == y
  | _, _ => false

def Number.ofUInt64 (n : UInt64) : Number :=
  if h : Int64.maxValue.toNatClampNeg < n.toNat then big n h else int n.toInt64

inductive Json where
  | null
  | bool (b : Bool)
  | num (n : Number)
  | str (s : String)
  | arr (items : List Json)
  | obj (fields : List (String × Json))

namespace Json

mutual

def same : Json → Json → Bool
  | null, null => true
  | bool a, bool b => a == b
  | num m, num n => m.same n
  | str s, str t => s == t
  | arr items, arr others => sameItems items others
  | obj fields, obj others => fields.length == others.length && sameFields fields others
  | _, _ => false

def sameItems : List Json → List Json → Bool
  | [], [] => true
  | item :: items, other :: others => item.same other && sameItems items others
  | _, _ => false

def sameFields : List (String × Json) → List (String × Json) → Bool
  | [], _ => true
  | (name, value) :: fields, others =>
      (match others.lookup name with
        | some other => value.same other
        | none => false) && sameFields fields others

end

def setField (name : String) (value : Json) : List (String × Json) → List (String × Json)
  | [] => [(name, value)]
  | field :: fields =>
      if field.1 == name then (name, value) :: fields else field :: setField name value fields

end Json

end BoundSelect
