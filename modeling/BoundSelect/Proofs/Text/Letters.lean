set_option autoImplicit false

namespace BoundSelect.Text

theorem isUpper_iff {c : Char} : c.isUpper ↔ 'A'.toNat ≤ c.toNat ∧ c.toNat ≤ 'Z'.toNat := by
  have spelled : c.isUpper = decide ('A'.val ≤ c.val ∧ c.val ≤ 'Z'.val) := rfl
  rw [spelled, decide_eq_true_iff]
  exact and_congr UInt32.le_iff_toNat_le UInt32.le_iff_toNat_le

theorem isLower_iff {c : Char} : c.isLower ↔ 'a'.toNat ≤ c.toNat ∧ c.toNat ≤ 'z'.toNat := by
  have spelled : c.isLower = (decide ('a'.val ≤ c.val) && decide (c.val ≤ 'z'.val)) := rfl
  rw [spelled, Bool.and_eq_true, decide_eq_true_iff, decide_eq_true_iff]
  exact and_congr UInt32.le_iff_toNat_le UInt32.le_iff_toNat_le

theorem isAlpha_iff {c : Char} : c.isAlpha ↔ c.isUpper ∨ c.isLower := Bool.or_eq_true_iff

theorem isUpper_eq_false_of_isDigit {c : Char} (h : c.isDigit) : c.isUpper = false := by
  rw [Bool.eq_false_iff]
  intro upper
  have first := (isUpper_iff.1 upper).1
  have last := (Char.isDigit_iff_toNat.1 h).2
  exact absurd (Nat.le_trans first last) (by decide)

theorem isUpper_eq_false_of_isLower {c : Char} (h : c.isLower) : c.isUpper = false := by
  rw [Bool.eq_false_iff]
  intro upper
  have first := (isLower_iff.1 h).1
  have last := (isUpper_iff.1 upper).2
  exact absurd (Nat.le_trans first last) (by decide)

theorem toLower_of_isUpper_eq_false {c : Char} (h : c.isUpper = false) : c.toLower = c := by
  have notUpper : ¬('A'.val ≤ c.val ∧ c.val ≤ 'Z'.val) := of_decide_eq_false h
  unfold Char.toLower
  rw [dif_neg notUpper]

theorem isLower_toLower {c : Char} (h : c.isAlpha) : c.toLower.isLower := by
  unfold Char.toLower
  split
  next upper =>
    have high := UInt32.le_iff_toNat_le.1 upper.2
    have shifted : (c.val + ('a'.val - 'A'.val)).toNat = c.val.toNat + 32 := by
      rw [UInt32.toNat_add]
      have : 'Z'.val.toNat = 90 := rfl
      have : ('a'.val - 'A'.val).toNat = 32 := rfl
      omega
    have low := UInt32.le_iff_toNat_le.1 upper.1
    refine isLower_iff.2 ⟨?_, ?_⟩
    · exact Nat.le_trans (Nat.add_le_add_right low 32) (Nat.le_of_eq shifted.symm)
    · exact Nat.le_trans (Nat.le_of_eq shifted) (Nat.add_le_add_right high 32)
  next notUpper =>
    refine (isAlpha_iff.1 h).resolve_left fun upper => notUpper ?_
    obtain ⟨low, high⟩ := isUpper_iff.1 upper
    exact ⟨UInt32.le_iff_toNat_le.2 low, UInt32.le_iff_toNat_le.2 high⟩

theorem toUpper_of_isLower_eq_false {c : Char} (h : c.isLower = false) : c.toUpper = c := by
  have notLower : ¬('a'.val ≤ c.val ∧ c.val ≤ 'z'.val) := by
    intro lower
    have low := UInt32.le_iff_toNat_le.1 lower.1
    have high := UInt32.le_iff_toNat_le.1 lower.2
    exact absurd (isLower_iff.2 ⟨low, high⟩) (by simp [h])
  unfold Char.toUpper
  rw [dif_neg notLower]

theorem toNat_toUpper {c : Char} (h : c.isLower) : c.toUpper.toNat + 32 = c.toNat := by
  obtain ⟨low, high⟩ := isLower_iff.1 h
  have lower : 'a'.val ≤ c.val ∧ c.val ≤ 'z'.val := ⟨UInt32.le_iff_toNat_le.2 low, UInt32.le_iff_toNat_le.2 high⟩
  unfold Char.toUpper
  rw [dif_pos lower]
  show (c.val + ('A'.val - 'a'.val)).toNat + 32 = c.val.toNat
  have first : 97 ≤ c.val.toNat := low
  have last : c.val.toNat ≤ 122 := high
  have shift : ('A'.val - 'a'.val).toNat = 4294967264 := rfl
  rw [UInt32.toNat_add, shift]
  omega

theorem span_append {p : Char → Bool} {run rest : List Char} (inside : ∀ c ∈ run, p c)
    (stop : ∀ c ∈ rest.head?, p c = false) :
    (run ++ rest).takeWhile p = run ∧ (run ++ rest).dropWhile p = rest := by
  rw [List.takeWhile_append_of_pos inside, List.dropWhile_append_of_pos inside]
  cases rest with
  | nil => simp
  | cons c more => simp [stop c rfl]

end BoundSelect.Text
