import BoundSelect.Json.Numeral

set_option autoImplicit false

namespace BoundSelect.Json

inductive Token where
  | openArr | closeArr | openObj | closeObj | comma | colon
  | str (s : String)
  | scalar (value : Json)
  | fault (inString : Bool) (failure : Failure)

def isSpace (c : Char) : Bool := c == ' ' || c == '\n' || c == '\t' || c == '\r'

def hexValue? (c : Char) : Option Nat :=
  if c.isDigit then some (c.toNat - '0'.toNat)
  else if 'a' ≤ c && c ≤ 'f' then some (c.toNat - 'a'.toNat + 10)
  else if 'A' ≤ c && c ≤ 'F' then some (c.toNat - 'A'.toNat + 10)
  else none

-- A text with fewer than four bytes left is cut short, whatever they are.
def hexUnit : List Char → Except Failure (Nat × List Char)
  | a :: b :: c :: d :: rest =>
      match hexValue? a, hexValue? b, hexValue? c, hexValue? d with
      | some a, some b, some c, some d => .ok (((a * 16 + b) * 16 + c) * 16 + d, rest)
      | _, _, _, _ => .error .malformed
  | short =>
      .error (if (String.ofList short).utf8ByteSize < 4 then .cutShort else .malformed)

theorem length_of_hexUnit {cs rest : List Char} {n : Nat} (h : hexUnit cs = .ok (n, rest)) :
    rest.length < cs.length := by
  fun_cases hexUnit cs with
  | case1 => simp_all [hexUnit]; omega
  | _ => simp_all [hexUnit]

def isHighSurrogate (n : Nat) : Bool := 0xD800 ≤ n && n ≤ 0xDBFF

def isLowSurrogate (n : Nat) : Bool := 0xDC00 ≤ n && n ≤ 0xDFFF

def lowHalf (high : Nat) : List Char → Except Failure (Char × List Char)
  | '\\' :: 'u' :: rest =>
      match hexUnit rest with
      | .error failure => .error failure
      | .ok (low, rest) =>
          if isLowSurrogate low then
            .ok (Char.ofNat (0x10000 + (high - 0xD800) * 0x400 + (low - 0xDC00)), rest)
          else .error .malformed
  | [] | ['\\'] => .error .cutShort
  | _ => .error .malformed

theorem length_of_lowHalf {cs rest : List Char} {high : Nat} {c : Char}
    (h : lowHalf high cs = .ok (c, rest)) : rest.length < cs.length := by
  fun_cases lowHalf high cs with
  | case2 after low left found =>
      have := length_of_hexUnit found
      simp_all [lowHalf]
      omega
  | _ => simp_all [lowHalf]

def unicodeEscape (cs : List Char) : Except Failure (Char × List Char) :=
  match hexUnit cs with
  | .error failure => .error failure
  | .ok (n, rest) =>
      if isLowSurrogate n then .error .malformed
      else if isHighSurrogate n then lowHalf n rest
      else .ok (Char.ofNat n, rest)

theorem length_of_unicodeEscape {cs rest : List Char} {c : Char}
    (h : unicodeEscape cs = .ok (c, rest)) : rest.length < cs.length := by
  fun_cases unicodeEscape cs with
  | case3 n after found _ high =>
      have := length_of_hexUnit found
      have := length_of_lowHalf (by simp_all [unicodeEscape] : lowHalf n after = .ok (c, rest))
      omega
  | case4 n after found _ _ =>
      have := length_of_hexUnit found
      simp_all [unicodeEscape]
  | _ => simp_all [unicodeEscape]

-- The backslash is read already.
def escape : List Char → Except Failure (Char × List Char)
  | [] => .error .cutShort
  | 'u' :: rest => unicodeEscape rest
  | '"' :: rest => .ok ('"', rest)
  | '\\' :: rest => .ok ('\\', rest)
  | '/' :: rest => .ok ('/', rest)
  | 'b' :: rest => .ok ('\x08', rest)
  | 'f' :: rest => .ok ('\x0c', rest)
  | 'n' :: rest => .ok ('\n', rest)
  | 'r' :: rest => .ok ('\r', rest)
  | 't' :: rest => .ok ('\t', rest)
  | _ => .error .malformed

theorem length_of_escape {cs rest : List Char} {c : Char} (h : escape cs = .ok (c, rest)) :
    rest.length < cs.length := by
  fun_cases escape cs with
  | case2 after =>
      have := length_of_unicodeEscape (by simpa [escape] using h)
      simp only [List.length_cons]
      omega
  | _ => simp_all [escape]

def stringBody : List Char → Except Failure (List Char × List Char)
  | [] => .error .cutShort
  | '"' :: rest => .ok ([], rest)
  -- An escaped quote does not end the string.
  | '\\' :: rest =>
      match _escape : escape rest with
      | .error failure => .error failure
      | .ok (c, rest) =>
          match stringBody rest with
          | .error failure => .error failure
          | .ok (body, after) => .ok (c :: body, after)
  | c :: rest =>
      if c.toNat < 0x20 then .error .malformed
      else match stringBody rest with
        | .error failure => .error failure
        | .ok (body, after) => .ok (c :: body, after)
termination_by cs => cs.length
decreasing_by
  · have := length_of_escape _escape
    simp only [List.length_cons]
    omega
  · simp

theorem length_of_stringBody {cs body after : List Char} (h : stringBody cs = .ok (body, after)) :
    after.length < cs.length := by
  fun_induction stringBody cs generalizing body with
  | case5 rest c left found chars last read ih =>
      obtain ⟨rfl, rfl⟩ := Prod.mk.inj (Except.ok.inj h)
      have := length_of_escape found
      have := ih read
      simp only [List.length_cons]
      omega
  | case8 c rest _ _ _ chars last read ih =>
      obtain ⟨rfl, rfl⟩ := Prod.mk.inj (Except.ok.inj h)
      have := ih read
      simp only [List.length_cons]
      omega
  | _ => simp_all

end BoundSelect.Json
