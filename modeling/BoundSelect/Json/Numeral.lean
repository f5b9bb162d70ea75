import BoundSelect.Json.Basic

set_option autoImplicit false

namespace BoundSelect

inductive Json.Failure where
  | cutShort
  | malformed
  deriving DecidableEq, Repr

structure Numeral where
  negative : Bool
  whole : List Nat
  fraction : List Nat := []
  exponent : Option Int := none
  deriving Repr

namespace Numeral

def digit (c : Char) : Nat := c.toNat - '0'.toNat

def span (cs : List Char) : List Nat × List Char :=
  ((cs.takeWhile Char.isDigit).map digit, cs.dropWhile Char.isDigit)

def digits (cs : List Char) : Except Json.Failure (List Nat × List Char) :=
  let (found, rest) := span cs
  if found ≠ [] then .ok (found, rest)
  else .error (if rest.isEmpty then .cutShort else .malformed)

theorem length_of_digits {cs rest : List Char} {found : List Nat}
    (h : digits cs = .ok (found, rest)) : rest.length < cs.length := by
  have total := congrArg List.length (List.takeWhile_append_dropWhile (p := Char.isDigit) (l := cs))
  by_cases none_found : cs.takeWhile Char.isDigit = []
  · simp [digits, span, none_found] at h
  · simp only [digits, span, ne_eq, List.map_eq_nil_iff, none_found, not_false_eq_true, if_true,
      Except.ok.injEq, Prod.mk.injEq] at h
    have := List.length_pos_iff.2 none_found
    rw [List.length_append, h.2] at total
    omega

def readWhole : List Char → Except Json.Failure (List Nat × List Char)
  | '0' :: rest => .ok ([0], rest)
  | cs => digits cs

theorem length_of_readWhole {cs rest : List Char} {found : List Nat}
    (h : readWhole cs = .ok (found, rest)) : rest.length < cs.length := by
  fun_cases readWhole cs with
  | case1 => simp_all [readWhole]
  | case2 => exact length_of_digits (by simpa [readWhole] using h)

def readFraction : List Char → Except Json.Failure (List Nat × List Char)
  | '.' :: rest => digits rest
  | cs => .ok ([], cs)

theorem length_of_readFraction {cs rest : List Char} {found : List Nat}
    (h : readFraction cs = .ok (found, rest)) : rest.length ≤ cs.length := by
  fun_cases readFraction cs with
  | case1 after =>
      have := length_of_digits (by simpa [readFraction] using h)
      simp only [List.length_cons]
      omega
  | case2 => simp_all [readFraction]

def ofDigits (ds : List Nat) : Nat := ds.foldl (fun n d => 10 * n + d) 0

def readSign : List Char → Bool × List Char
  | '-' :: rest => (true, rest)
  | '+' :: rest => (false, rest)
  | cs => (false, cs)

theorem length_readSign_le (cs : List Char) : (readSign cs).2.length ≤ cs.length := by
  fun_cases readSign cs <;> simp

def isExponentMark (c : Char) : Bool := c == 'e' || c == 'E'

def readExponent : List Char → Except Json.Failure (Option Int × List Char)
  | [] => .ok (none, [])
  | c :: cs =>
      if !isExponentMark c then .ok (none, c :: cs)
      else match digits (readSign cs).2 with
        | .error failure => .error failure
        | .ok (found, rest) =>
            let size := ofDigits found
            .ok (some (if (readSign cs).1 then -size else size), rest)

theorem length_of_readExponent {cs rest : List Char} {exponent : Option Int}
    (h : readExponent cs = .ok (exponent, rest)) : rest.length ≤ cs.length := by
  fun_cases readExponent cs with
  | case4 c cs mark found left read size =>
      have := length_of_digits read
      have := length_readSign_le cs
      simp_all [readExponent]
      omega
  | _ => simp_all [readExponent]

def readUnsigned (negative : Bool) (cs : List Char) : Except Json.Failure (Numeral × List Char) :=
  match readWhole cs with
  | .error failure => .error failure
  | .ok (whole, rest) =>
      match readFraction rest with
      | .error failure => .error failure
      | .ok (fraction, rest) =>
          match readExponent rest with
          | .error failure => .error failure
          | .ok (exponent, rest) => .ok ({ negative, whole, fraction, exponent }, rest)

theorem length_of_readUnsigned {negative : Bool} {cs rest : List Char} {n : Numeral}
    (h : readUnsigned negative cs = .ok (n, rest)) : rest.length < cs.length := by
  fun_cases readUnsigned negative cs with
  | case4 whole afterWhole read fraction afterFraction readNext exponent last readLast =>
      have := length_of_readWhole read
      have := length_of_readFraction readNext
      have := length_of_readExponent readLast
      simp_all [readUnsigned]
      omega
  | _ => simp_all [readUnsigned]

def read : List Char → Except Json.Failure (Numeral × List Char)
  | '-' :: rest => readUnsigned true rest
  | cs => readUnsigned false cs

theorem length_of_read {cs rest : List Char} {n : Numeral} (h : read cs = .ok (n, rest)) :
    rest.length < cs.length := by
  fun_cases read cs with
  | case1 after =>
      have := length_of_readUnsigned (by simpa [read] using h)
      simp only [List.length_cons]
      omega
  | case2 => exact length_of_readUnsigned (by simpa [read] using h)

def absorb (significand : Nat) : List Nat → Nat × List Nat
  | [] => (significand, [])
  | d :: ds =>
      if 10 * significand + d < UInt64.size then absorb (10 * significand + d) ds
      else (significand, d :: ds)

-- Powers of ten are finite up to 308 places.
def scaleDown (x : Float) (places : Nat) : Float :=
  if places ≤ 308 then x / Float.ofScientific 1 false places
  else if x == 0 then x
  else scaleDown (x / Float.ofScientific 1 false 308) (places - 308)
termination_by places
decreasing_by omega

def scale? (x : Float) (exponent : Int) : Option Float :=
  if exponent < 0 then some (scaleDown x exponent.natAbs)
  else if x == 0 then some x
  else if exponent ≤ 308 then some (x * Float.ofScientific 1 false exponent.toNat)
  else none

def float? (n : Numeral) (significand : Nat) (exponent : Int) : Option Number := do
  let size ← scale? significand.toUInt64.toFloat exponent
  let x := if n.negative then -size else size
  if h : x.isFinite then some (.float x h) else none

def integer? (n : Numeral) (significand : Nat) : Option Number :=
  if !n.negative then some (.ofUInt64 significand.toUInt64)
  else if 0 < significand && Int64.minValue.toInt ≤ -significand then
    some (.int (Int64.ofInt (-significand)))
  else n.float? significand 0

def value? (n : Numeral) : Option Number :=
  let (significand, dropped) := absorb 0 n.whole
  match n.fraction, n.exponent, dropped with
  | [], none, [] => n.integer? significand
  | fraction, exponent, dropped =>
      let (significand, ignored) := absorb significand fraction
      let places : Int := dropped.length - (fraction.length - ignored.length : Nat)
      n.float? significand (places + exponent.getD 0)

end Numeral

end BoundSelect
