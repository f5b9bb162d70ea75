set_option autoImplicit false

namespace BoundSelect.Decimal

-- At the bottom of a binade the next smaller number is half as far away as the next larger one.
structure Binary where
  significand : Nat
  exponent : Int
  atBottom : Bool
  deriving DecidableEq, Repr

structure Digits where
  digits : Nat
  exponent : Int
  deriving DecidableEq, Repr

inductive Tie where
  | up
  | toEven
  deriving DecidableEq, Repr

def isNegative (x : Float) : Bool := x.toBits >>> 63 == 1

def Binary.ofFloat? (x : Float) : Option Binary :=
  let fraction := (x.toBits &&& 0xFFFFFFFFFFFFF).toNat
  let field := (x.toBits >>> 52 &&& 0x7FF).toNat
  if field = 0 then
    if fraction = 0 then none else some ⟨fraction, -1074, false⟩
  else some ⟨0x10000000000000 + fraction, (field : Int) - 1075, fraction = 0 && field > 1⟩

namespace Binary

-- Quarters of the last place count the number itself and the ends of its interval.
def quarters (b : Binary) : Nat := 4 * b.significand

def lower (b : Binary) : Nat := b.quarters - if b.atBottom then 1 else 2

def upper (b : Binary) : Nat := b.quarters + 2

def scales (b : Binary) (grid : Int) : Nat × Nat :=
  let binary := b.exponent - 2
  (Nat.pow 2 binary.toNat * Nat.pow 10 (-grid).toNat,
    Nat.pow 10 grid.toNat * Nat.pow 2 (-binary).toNat)

-- The ends belong to the interval when the significand is even.
def Covers (b : Binary) (d : Digits) : Prop :=
  let (quarter, step) := b.scales d.exponent
  let place := d.digits * step
  if b.significand % 2 = 0 then b.lower * quarter ≤ place ∧ place ≤ b.upper * quarter
  else b.lower * quarter < place ∧ place < b.upper * quarter

instance (b : Binary) (d : Digits) : Decidable (b.Covers d) := by
  unfold Covers
  infer_instance

def onGrid? (b : Binary) (tie : Tie) (grid : Int) : Option Digits :=
  let (quarter, step) := b.scales grid
  let below : Digits := ⟨b.quarters * quarter / step, grid⟩
  let above : Digits := ⟨below.digits + 1, grid⟩
  if b.Covers below then
    if b.Covers above then
      let down := b.quarters * quarter - below.digits * step
      let up := above.digits * step - b.quarters * quarter
      if down < up then some below
      else if up < down then some above
      else match tie with
        | .up => some above
        | .toEven => some (if below.digits % 2 = 0 then below else above)
    else some below
  else if b.Covers above then some above else none

-- A grid that is coarser than the number: `30103 / 100000` is the logarithm of two.
def topGrid (b : Binary) : Int :=
  (Nat.log2 b.significand + b.exponent) * 30103 / 100000 + 2

-- Seventeen digits always suffice, and the search starts at most three grids above the first digit.
def shortest (b : Binary) (tie : Tie) : Digits :=
  ((List.range 21).findSome? fun n : Nat => b.onGrid? tie (b.topGrid - n)).getD ⟨b.significand, 0⟩

end Binary

end BoundSelect.Decimal
