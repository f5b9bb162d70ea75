import BoundSelect.Decimal.Shortest

set_option autoImplicit false

namespace BoundSelect.Decimal

structure Style where
  tie : Tie
  positional : Int → Bool
  decimals : Nat

private def padded (digits : String) (width : Nat) : String :=
  digits ++ "".pushn '0' (width - digits.length)

private def withFraction (whole fraction : String) : String :=
  if fraction.isEmpty then whole else whole ++ "." ++ fraction

def positionalText (digits : String) (exponent : Int) (decimals : Nat) : String :=
  let size := digits.length
  let places := (-exponent).toNat
  if places = 0 then withFraction (padded digits (size + exponent.toNat)) ("".pushn '0' decimals)
  else if places < size then
    let cut := size - places
    withFraction (String.ofList (digits.toList.take cut))
      (padded (String.ofList (digits.toList.drop cut)) decimals)
  else withFraction "0" (padded ("".pushn '0' (places - size) ++ digits) decimals)

def scientificText (digits : String) (exponent : Int) : String :=
  let fraction := String.ofList (digits.toList.drop 1)
  withFraction (String.ofList (digits.toList.take 1)) fraction ++ "e" ++
    (if exponent < 0 then "-" else "+") ++ toString exponent.natAbs

def Style.text (style : Style) (x : Float) : String :=
  let size := match Binary.ofFloat? x with
    | none => withFraction "0" ("".pushn '0' style.decimals)
    | some b =>
        let shortest := b.shortest style.tie
        let digits := toString shortest.digits
        let exponent := shortest.exponent + (digits.length - 1 : Nat)
        if style.positional exponent then positionalText digits shortest.exponent style.decimals
        else scientificText digits exponent
  if isNegative x then "-" ++ size else size

end BoundSelect.Decimal
