import BoundSelect.Proofs.Placeholder.Keys
import BoundSelect.Proofs.Text.Letters
import Mathlib.Data.List.Basic
import Mathlib.Data.List.Induction
import Mathlib.Data.Nat.Digits.Defs

set_option autoImplicit false

namespace BoundSelect

def Text.bytes (s : String) : List UInt8 := s.toUTF8.data.toList

namespace Tag

theorem length_digits (n : Nat) : (digits n).length = max 1 (Nat.digits 26 n).length := by
  induction n using digits.induct with
  | case1 n small =>
    rw [digits, if_pos small]
    by_cases zero : n = 0
    · simp [zero]
    · simp [Nat.digits_of_lt 26 n zero small]
  | case2 n large ih =>
    have filled : 0 < (Nat.digits 26 (n / 26)).length := by
      rw [List.length_pos_iff, Nat.digits_ne_nil_iff_ne_zero]
      omega
    have first : (Nat.digits 26 n).length = (Nat.digits 26 (n / 26)).length + 1 := by
      rw [Nat.digits_def' (by decide) (by omega), List.length_cons]
    rw [digits, if_neg large, List.length_append, List.length_singleton, ih, first]
    omega

theorem length_letters (n : Nat) : (letters n).length = max 3 (Nat.digits 26 n).length := by
  rw [letters, List.length_leftpad, List.length_map, length_digits]
  omega

theorem value_cons (c : Char) (cs : List Char) :
    value (c :: cs) = (c.toNat - 'A'.toNat) * 26 ^ cs.length + value cs := by
  induction cs using List.reverseRecOn with
  | nil => simp [value]
  | append_singleton cs d ih =>
    rw [← List.cons_append, value_append_singleton, ih, value_append_singleton, List.length_append,
      List.length_singleton, Nat.pow_succ]
    ring

theorem value_lt_pow {cs : List Char} (upper : ∀ c ∈ cs, c.isUpper) : value cs < 26 ^ cs.length := by
  induction cs using List.reverseRecOn with
  | nil => decide
  | append_singleton cs d ih =>
    have others := ih fun c hc => upper c (List.mem_append_left _ hc)
    have last := (Text.isUpper_iff.1 (upper d (List.mem_append_right _ (List.mem_singleton_self d)))).2
    have z : 'Z'.toNat = 'A'.toNat + 25 := rfl
    rw [value_append_singleton, List.length_append, List.length_singleton, Nat.pow_succ]
    omega

theorem bytes_ofList {cs : List Char} (upper : ∀ c ∈ cs, c.isUpper) :
    Text.bytes (String.ofList cs) = cs.map fun c => c.toUInt8 := by
  have single : ∀ c ∈ cs, String.utf8EncodeChar c = [c.toUInt8] := by
    intro c hc
    have last := (Text.isUpper_iff.1 (upper c hc)).2
    have ascii : c.val ≤ 127 := UInt32.le_iff_toNat_le.2 (Nat.le_trans last (by decide))
    exact String.utf8EncodeChar_eq_singleton (Char.utf8Size_eq_one_iff.2 ascii)
  rw [Text.bytes, String.toUTF8_eq_toByteArray, String.toByteArray_ofList, List.utf8Encode,
    List.toList_data_toByteArray, List.map_eq_flatMap]
  exact List.flatMap_congr single

theorem byte_lt {c d : Char} (hc : c.isUpper) (hd : d.isUpper)
    (less : c.toNat - 'A'.toNat < d.toNat - 'A'.toNat) : c.toUInt8 < d.toUInt8 := by
  have small := (Text.isUpper_iff.1 hc).2
  have large := (Text.isUpper_iff.1 hd).2
  have z : 'Z'.toNat = 90 := rfl
  have spelled (c : Char) : c.val.toNat = c.toNat := rfl
  rw [UInt8.lt_iff_toNat_lt, ← Char.toUInt8_val, ← Char.toUInt8_val, UInt32.toNat_toUInt8, UInt32.toNat_toUInt8,
    spelled, spelled]
  omega

theorem bytes_lt_of_value_lt {cs ds : List Char} (upperC : ∀ c ∈ cs, c.isUpper) (upperD : ∀ d ∈ ds, d.isUpper)
    (same : cs.length = ds.length) (less : value cs < value ds) :
    cs.map (fun c => c.toUInt8) < ds.map fun d => d.toUInt8 := by
  induction cs generalizing ds with
  | nil =>
    obtain rfl := List.length_eq_zero_iff.1 same.symm
    exact absurd less (Nat.lt_irrefl _)
  | cons c cs ih =>
    obtain ⟨d, ds, rfl⟩ := List.exists_cons_of_length_eq_add_one same.symm
    rw [List.forall_mem_cons] at upperC upperD
    have same : cs.length = ds.length := Nat.succ.inj same
    have boundC := value_lt_pow upperC.2
    have boundD := value_lt_pow upperD.2
    rw [value_cons, value_cons, same] at less
    rw [same] at boundC
    rw [List.map_cons, List.map_cons, List.cons_lt_cons_iff]
    rcases Nat.lt_trichotomy (c.toNat - 'A'.toNat) (d.toNat - 'A'.toNat) with before | equal | behind
    · exact .inl (byte_lt upperC.1 upperD.1 before)
    · rw [equal] at less
      have first : c = d := by
        have lowC := (Text.isUpper_iff.1 upperC.1).1
        have lowD := (Text.isUpper_iff.1 upperD.1).1
        exact Char.toNat_inj.1 (by omega)
      exact .inr ⟨by rw [first], ih upperC.2 upperD.2 same (by omega)⟩
    · have more := Nat.mul_le_mul_right (26 ^ ds.length) (Nat.succ_le_of_lt behind)
      rw [Nat.succ_mul] at more
      omega

theorem toList_text (n : Nat) : (text n).toList = letters n := String.toList_ofList

theorem capital_of_mem_text {n : Nat} {c : Char} (h : c ∈ (text n).toList) : 'A' ≤ c ∧ c ≤ 'Z' := by
  rw [toList_text] at h
  exact Text.isUpper_iff.1 (isUpper_of_mem_letters h)

theorem length_text (n : Nat) : (text n).length = max 3 (Nat.digits 26 n).length := by
  rw [← String.length_toList, toList_text, length_letters]

theorem value_text (n : Nat) : value (text n).toList = n := by
  rw [toList_text, value_letters]

theorem text_inj {n m : Nat} : text n = text m ↔ n = m := by
  refine ⟨fun same => ?_, congrArg text⟩
  rw [← value_text n, same, value_text]

theorem text_append_inj {n i m j : Nat} : text n ++ toString i = text m ++ toString j ↔ n = m ∧ i = j := by
  constructor
  · exact Slot.key_injective (s := ⟨n, i, .null⟩) (t := ⟨m, j, .null⟩)
  · rintro ⟨rfl, rfl⟩
    rfl

theorem bytes_text_lt {n m : Nat} (less : n < m) (same : (text n).length = (text m).length) :
    Text.bytes (text n) < Text.bytes (text m) := by
  have upper (n : Nat) : ∀ c ∈ letters n, c.isUpper := fun c => isUpper_of_mem_letters
  rw [← String.length_toList, ← String.length_toList, toList_text, toList_text] at same
  rw [text, text, bytes_ofList (upper n), bytes_ofList (upper m)]
  apply bytes_lt_of_value_lt (upper n) (upper m) same
  rw [value_letters, value_letters]
  exact less

theorem tags_numbered :
    (∀ n, (∀ c ∈ (text n).toList, 'A' ≤ c ∧ c ≤ 'Z') ∧
      (text n).length = max 3 (Nat.digits 26 n).length ∧ value (text n).toList = n) ∧
    (∀ n m, text n = text m ↔ n = m) ∧
    (∀ n i m j : Nat, text n ++ toString i = text m ++ toString j ↔ n = m ∧ i = j) ∧
    ∀ n m, n < m → (text n).length = (text m).length → Text.bytes (text n) < Text.bytes (text m) :=
  ⟨fun n => ⟨fun _ => capital_of_mem_text, length_text n, value_text n⟩, fun _ _ => text_inj,
    fun _ _ _ _ => text_append_inj, fun _ _ => bytes_text_lt⟩

-- A carry through two letters, and the number at which a fourth letter is needed.
theorem tags_numbered_carrying :
    (675 < 676 ∧ (text 675).length = (text 676).length ∧ Text.bytes (text 675) < Text.bytes (text 676)) ∧
      text 17575 = "ZZZ" ∧ text 17576 = "BAAA" ∧ value (text 17576).toList = 17576 := by
  have same : (text 675).length = (text 676).length := by decide +kernel
  obtain ⟨numbers, -, -, ordered⟩ := tags_numbered
  exact ⟨⟨by decide, same, ordered 675 676 (by decide) same⟩, by decide +kernel, by decide +kernel,
    (numbers 17576).2.2⟩

end Tag

end BoundSelect
