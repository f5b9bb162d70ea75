import BoundSelect.Decimal.Style
import BoundSelect.Json.Basic

set_option autoImplicit false

namespace BoundSelect

open Decimal (Style)

def Json.floatStyle : Style where
  tie := .toEven
  positional e := -5 ≤ e && e < 16
  decimals := 1

def Number.text : Number → String
  | int n => toString n
  | big n _ => toString n
  | float x _ => Json.floatStyle.text x

namespace Json

def hexDigit (n : Nat) : Char := (Nat.digitChar (n % 16))

def escapeChar (c : Char) : List Char :=
  match c with
  | '"' => ['\\', '"']
  | '\\' => ['\\', '\\']
  | '\x08' => ['\\', 'b']
  | '\t' => ['\\', 't']
  | '\n' => ['\\', 'n']
  | '\x0c' => ['\\', 'f']
  | '\r' => ['\\', 'r']
  | c =>
      if c.toNat < 0x20 then
        ['\\', 'u', '0', '0', hexDigit (c.toNat / 16), hexDigit c.toNat]
      else [c]

def quote (s : String) : String :=
  "\"" ++ String.ofList (s.toList.flatMap escapeChar) ++ "\""

mutual

def text : Json → String
  | null => "null"
  | bool b => if b then "true" else "false"
  | num n => n.text
  | str s => quote s
  | arr items => "[" ++ ",".intercalate (itemTexts items) ++ "]"
  | obj fields => "\x7b" ++ ",".intercalate (fieldTexts fields) ++ "\x7d"

def itemTexts : List Json → List String
  | [] => []
  | item :: items => item.text :: itemTexts items

def fieldTexts : List (String × Json) → List String
  | [] => []
  | (name, value) :: fields => (quote name ++ ":" ++ value.text) :: fieldTexts fields

end

end Json

end BoundSelect
