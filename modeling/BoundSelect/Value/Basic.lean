import BoundSelect.Json.Writer
import BoundSelect.Json.Token
import BoundSelect.Value.Calendar

set_option autoImplicit false

namespace BoundSelect

open Decimal (Style)

structure Uuid where
  bits : BitVec 128
  deriving DecidableEq, Repr

namespace Uuid

def hexDigits (u : Uuid) : List Char :=
  (List.range 32).map fun i => Json.hexDigit (u.bits >>> (4 * (31 - i))).toNat

def text (u : Uuid) : String :=
  let groups := [(0, 8), (8, 4), (12, 4), (16, 4), (20, 12)]
  "-".intercalate (groups.map fun (start, size) => String.ofList ((u.hexDigits.drop start).take size))

def ofHex (digits : String) : Uuid :=
  ⟨digits.toList.foldl (fun bits c => bits <<< 4 ||| ((Json.hexValue? c).getD 0 : Nat)) 0⟩

end Uuid

inductive Value where
  | null
  | bool (b : Bool)
  | int (n : Int64)
  | uint (n : UInt64)
  | float (x : Float)
  | text (s : String)
  | date (d : Date)
  | timestamp (t : Timestamp)
  | uuid (u : Uuid)
  | json (j : Json)

namespace Value

def isNull : Value → Bool
  | null => true
  | _ => false

def ofUInt64 (n : UInt64) : Value :=
  match Number.ofUInt64 n with
  | .int i => int i
  | _ => uint n

def ofJson : Json → Value
  | .null => null
  | .bool b => bool b
  | .num (.int n) => int n
  | .num (.big n _) => uint n
  | .num (.float x _) => float x
  | .str s => text s
  | .arr items => json (.arr items)
  | .obj fields => json (.obj fields)

def toJson : Value → Json
  | null => .null
  | bool b => .bool b
  | int n => .num (.int n)
  | uint n => .num (.ofUInt64 n)
  | float x => if h : x.isFinite then .num (.float x h) else .null
  | text s => .str s
  | date d => .str d.text
  | timestamp t => .str (t.text "Z")
  | uuid u => .str u.text
  | json j => j

@[simp] theorem toJson_ofJson (j : Json) : (ofJson j).toJson = j := by
  rcases j with _ | _ | n | _ | _ | _
  case num =>
    cases n with
    | int n => rfl
    | big n large => simp [ofJson, toJson, Number.ofUInt64, large]
    | float x finite => simp [ofJson, toJson, finite]
  all_goals rfl

def floatStyle : Style where
  tie := .up
  positional _ := true
  decimals := 0

def floatLiteral (x : Float) : String :=
  if x.isNaN then "NaN"
  else if x.isFinite then floatStyle.text x
  else if x < 0 then "-inf" else "inf"

-- Texts stand as they are, without quotes: an unbound operand is a piece of the statement.
def literal : Value → String
  | null => "NULL"
  | bool b => if b then "TRUE" else "FALSE"
  | int n => toString n
  | uint n => toString n
  | float x => floatLiteral x
  | text s => s
  | date d => d.text
  | timestamp t => t.text "+00:00"
  | uuid u => u.text
  | json j => j.text

-- NaN differs from itself, and the zeros are one.
def same : Value → Value → Bool
  | null, null => true
  | bool a, bool b => a == b
  | int m, int n => m == n
  | uint m, uint n => m == n
  | float x, float y => x == y
  | text s, text t => s == t
  | date d, date e => d == e
  | timestamp t, timestamp u => t == u
  | uuid u, uuid v => u == v
  | json j, json k => j.same k
  | _, _ => false

end Value

end BoundSelect
