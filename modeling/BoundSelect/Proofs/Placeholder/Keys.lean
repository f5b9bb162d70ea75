import BoundSelect.Placeholder
import BoundSelect.Proofs.Text.Outside

set_option autoImplicit false

namespace BoundSelect

namespace Tag

theorem lt_of_mem_digits {n d : Nat} (h : d ∈ digits n) : d < 26 := by
  induction n using digits.induct with
  | case1 n small =>
    rw [digits, if_pos small, List.mem_singleton] at h
    omega
  | case2 n large ih =>
    rw [digits, if_neg large] at h
    rcases List.mem_append.1 h with h | h
    · exact ih h
    · rw [List.mem_singleton.1 h]
      omega

theorem digits_ne_nil (n : Nat) : digits n ≠ [] := by
  unfold digits
  split <;> simp

theorem isUpper_letter {d : Nat} (h : d < 26) : (letter d).isUpper := by
  revert d
  decide

theorem isUpper_of_mem_letters {n : Nat} {c : Char} (h : c ∈ letters n) : c.isUpper := by
  rcases List.mem_append.1 h with h | h
  · rw [List.eq_of_mem_replicate h]
    rfl
  · obtain ⟨d, hd, rfl⟩ := List.mem_map.1 h
    exact isUpper_letter (lt_of_mem_digits hd)

theorem letters_ne_nil (n : Nat) : letters n ≠ [] := by
  have some : ((digits n).map letter) ≠ [] := by simp [digits_ne_nil]
  exact fun h => some (List.append_eq_nil_iff.1 h).2

def value (letters : List Char) : Nat := letters.foldl (fun n c => n * 26 + (c.toNat - 'A'.toNat)) 0

theorem toNat_letter {d : Nat} (h : d < 26) : (letter d).toNat - 'A'.toNat = d := by
  revert d
  decide

theorem value_append_singleton (cs : List Char) (c : Char) :
    value (cs ++ [c]) = value cs * 26 + (c.toNat - 'A'.toNat) := by
  simp [value]

theorem value_map_digits (n : Nat) : value ((digits n).map letter) = n := by
  induction n using digits.induct with
  | case1 n small =>
    rw [digits, if_pos small]
    simpa [value] using toNat_letter small
  | case2 n large ih =>
    rw [digits, if_neg large, List.map_append, List.map_singleton, value_append_singleton, ih,
      toNat_letter (Nat.mod_lt n (by decide))]
    omega

theorem value_replicate_append (k : Nat) (cs : List Char) :
    value (List.replicate k 'A' ++ cs) = value cs := by
  induction k with
  | zero => rfl
  | succ k ih => simpa [value, List.replicate_succ] using ih

theorem value_letters (n : Nat) : value (letters n) = n := by
  rw [letters, List.leftpad, value_replicate_append, value_map_digits]

end Tag

namespace Slot

open Text (keyAt Stops span_letters keyAt_append)

theorem toList_key (s : Slot) :
    s.key.toList = Tag.letters s.tag ++ Nat.toDigits 10 s.index := by
  rw [key, Tag.text, String.toList_append, String.toList_ofList, ← Nat.toList_repr]
  rfl

theorem isDigit_of_mem_index {n : Nat} {c : Char} (h : c ∈ Nat.toDigits 10 n) : c.isDigit :=
  Nat.isDigit_of_mem_toDigits (by decide) (by decide) h

theorem keyAt_key (s : Slot) {rest : List Char} (stop : Stops rest) :
    keyAt (s.key.toList ++ rest) = some s.key := by
  have read := keyAt_append (Tag.letters_ne_nil s.tag) Nat.toDigits_ne_nil
    (fun c => Tag.isUpper_of_mem_letters) (fun c => isDigit_of_mem_index (n := s.index)) stop
  rw [toList_key, List.append_assoc, read, ← toList_key, String.ofList_toList]

theorem key_injective {s t : Slot} (h : s.key = t.key) : s.tag = t.tag ∧ s.index = t.index := by
  have spans (s : Slot) := span_letters (fun c => Tag.isUpper_of_mem_letters (n := s.tag))
    (fun c => isDigit_of_mem_index (n := s.index)) Nat.toDigits_ne_nil []
  have same : Tag.letters s.tag ++ (Nat.toDigits 10 s.index ++ []) =
      Tag.letters t.tag ++ (Nat.toDigits 10 t.index ++ []) := by
    simpa only [List.append_nil, toList_key] using congrArg String.toList h
  have letters : Tag.letters s.tag = Tag.letters t.tag := by
    rw [← (spans s).1, same, (spans t).1]
  have digits : Nat.toDigits 10 s.index ++ [] = Nat.toDigits 10 t.index ++ [] := by
    rw [← (spans s).2, same, (spans t).2]
  constructor
  · rw [← Tag.value_letters s.tag, letters, Tag.value_letters]
  · rw [← Nat.ofDigitChars_ten_toDigits (n := s.index), ← List.append_nil (Nat.toDigits _ _), digits,
      List.append_nil, Nat.ofDigitChars_ten_toDigits]

end Slot

end BoundSelect
