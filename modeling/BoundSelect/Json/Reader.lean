import BoundSelect.Json.Token

set_option autoImplicit false

namespace BoundSelect.Json

def literal (value : Json) : (letters cs : List Char) → Token × List Char
  | [], rest => (.scalar value, rest)
  | _ :: _, [] => (.fault false .cutShort, [])
  | letter :: letters, c :: cs =>
      if letter = c then literal value letters cs else (.fault false .malformed, [])

theorem length_literal_le (value : Json) (letters cs : List Char) :
    (literal value letters cs).2.length ≤ cs.length := by
  fun_induction literal value letters cs with
  | case3 => simp_all; omega
  | _ => simp_all

def stringToken (cs : List Char) : Token × List Char :=
  match stringBody cs with
  | .error failure => (.fault true failure, [])
  | .ok (body, rest) => (.str (String.ofList body), rest)

theorem length_stringToken_le (cs : List Char) : (stringToken cs).2.length ≤ cs.length := by
  unfold stringToken
  split
  · simp
  · next h => exact Nat.le_of_lt (length_of_stringBody h)

def numberToken (cs : List Char) : Token × List Char :=
  match Numeral.read cs with
  | .error failure => (.fault false failure, [])
  | .ok (numeral, rest) =>
      match numeral.value? with
      | some n => (.scalar (.num n), rest)
      | none => (.fault false .malformed, [])

theorem length_numberToken_le (c : Char) (cs : List Char) :
    (numberToken (c :: cs)).2.length ≤ cs.length := by
  unfold numberToken
  split
  · simp
  · next h =>
      have := Numeral.length_of_read h
      rw [List.length_cons] at this
      split <;> simp
      omega

def token (c : Char) (rest : List Char) : Token × List Char :=
  match c with
  | '[' => (.openArr, rest)
  | ']' => (.closeArr, rest)
  | '{' => (.openObj, rest)
  | '}' => (.closeObj, rest)
  | ',' => (.comma, rest)
  | ':' => (.colon, rest)
  | '"' => stringToken rest
  | 'n' => literal .null ['u', 'l', 'l'] rest
  | 't' => literal (.bool true) ['r', 'u', 'e'] rest
  | 'f' => literal (.bool false) ['a', 'l', 's', 'e'] rest
  | c => if c.isDigit || c == '-' then numberToken (c :: rest) else (.fault false .malformed, [])

theorem length_token_le (c : Char) (rest : List Char) : (token c rest).2.length ≤ rest.length := by
  unfold token
  split <;> try exact Nat.le_refl _
  · exact length_stringToken_le rest
  · exact length_literal_le ..
  · exact length_literal_le ..
  · exact length_literal_le ..
  · split
    · exact length_numberToken_le ..
    · simp

def tokens : List Char → List Token
  | [] => []
  | c :: rest =>
      if isSpace c then tokens rest
      else (token c rest).1 :: tokens (token c rest).2
termination_by cs => cs.length
decreasing_by
  · simp
  · have := length_token_le c rest
    simp only [List.length_cons]
    omega

inductive Frame where
  | arr (items : Array Json)
  | obj (fields : List (String × Json)) (name : String)

inductive Goal where
  | value
  | firstItem
  | firstName
  | name (fields : List (String × Json))
  | colon (fields : List (String × Json)) (name : String)
  | after (value : Json)

def maxDepth : Nat := 127

-- The innermost frame is the first.
def advance : Token → Goal → List Frame → Except Failure (Goal × List Frame)
  | .scalar v, .value, frames | .scalar v, .firstItem, frames => .ok (.after v, frames)
  | .str s, .value, frames | .str s, .firstItem, frames => .ok (.after (.str s), frames)
  | .openArr, .value, frames | .openArr, .firstItem, frames =>
      if frames.length < maxDepth then .ok (.firstItem, .arr #[] :: frames) else .error .malformed
  | .openObj, .value, frames | .openObj, .firstItem, frames =>
      if frames.length < maxDepth then .ok (.firstName, frames) else .error .malformed
  | .closeArr, .firstItem, .arr items :: frames => .ok (.after (.arr items.toList), frames)
  | .closeObj, .firstName, frames => .ok (.after (.obj []), frames)
  | .str s, .firstName, frames => .ok (.colon [] s, frames)
  | .str s, .name fields, frames => .ok (.colon fields s, frames)
  | .colon, .colon fields name, frames => .ok (.value, .obj fields name :: frames)
  | .comma, .after v, .arr items :: frames => .ok (.value, .arr (items.push v) :: frames)
  | .closeArr, .after v, .arr items :: frames => .ok (.after (.arr (items.push v).toList), frames)
  | .comma, .after v, .obj fields name :: frames => .ok (.name (setField name v fields), frames)
  | .closeObj, .after v, .obj fields name :: frames =>
      .ok (.after (.obj (setField name v fields)), frames)
  | .fault _ failure, .value, _ | .fault _ failure, .firstItem, _ => .error failure
  | .fault true failure, .firstName, _ | .fault true failure, .name _, _ => .error failure
  | _, _, _ => .error .malformed

def assemble : List Token → Goal → List Frame → Except Failure Json
  | [], .after v, [] => .ok v
  | [], _, _ => .error .cutShort
  | token :: rest, goal, frames =>
      match advance token goal frames with
      | .error failure => .error failure
      | .ok (goal, frames) => assemble rest goal frames

def parse (text : String) : Except Failure Json := assemble (tokens text.toList) .value []

end BoundSelect.Json
