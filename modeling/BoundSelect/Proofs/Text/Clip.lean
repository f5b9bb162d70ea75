import BoundSelect.Text.Clip

set_option autoImplicit false

namespace BoundSelect.Text

structure LongestWithin (limit : Nat) (s t : String) : Prop where
  begins : ∃ rest, s = t ++ rest
  within : t.utf8ByteSize ≤ limit
  longest : ∀ p : String.Pos.Raw, p.IsValid s → p.byteIdx ≤ limit → p.byteIdx ≤ t.utf8ByteSize

-- What is seen of a text: all of it if it is within the limit, and else as much as fits and three dots.
inductive Shown : Option Nat → String → String → Prop
  | unlimited (s : String) : Shown none s s
  | whole {limit : Nat} {s : String} (small : s.utf8ByteSize ≤ limit) : Shown (some limit) s s
  | cut {limit : Nat} {s t : String} (large : limit < s.utf8ByteSize) (longest : LongestWithin limit s t) :
      Shown (some limit) s (t ++ "...")

def lastBoundary (s : String) : (n : Nat) → Nat
  | 0 => 0
  | n + 1 => if String.Pos.Raw.isValid s ⟨n + 1⟩ then n + 1 else lastBoundary s n

def before? (s : String) (n : Nat) : Option String := String.fromUTF8? (s.toByteArray.extract 0 n)

def shorten? (limit : Nat) (s : String) : Option String :=
  if s.utf8ByteSize ≤ limit then some s else before? s (lastBoundary s limit)

def kept (limit : Nat) (s : String) : String := String.ofList (fitting limit s.toList)

theorem utf8ByteSize_cons (c : Char) (cs : List Char) :
    (String.ofList (c :: cs)).utf8ByteSize = c.utf8Size + (String.ofList cs).utf8ByteSize := by
  rw [← List.singleton_append, String.ofList_append, String.utf8ByteSize_append, ← String.singleton_eq_ofList,
    String.utf8ByteSize_singleton]

theorem utf8ByteSize_fitting_le (room : Nat) (cs : List Char) :
    (String.ofList (fitting room cs)).utf8ByteSize ≤ room := by
  fun_induction fitting room cs with
  | case1 room => exact Nat.zero_le room
  | case2 room c rest fits ih =>
    rw [utf8ByteSize_cons]
    omega
  | case3 room c rest tooLarge => exact Nat.zero_le room

theorem isPrefix_fitting {room : Nat} {us cs : List Char} (begins : us <+: cs)
    (within : (String.ofList us).utf8ByteSize ≤ room) : us <+: fitting room cs := by
  induction cs generalizing room us with
  | nil => exact begins
  | cons c cs ih =>
    cases us with
    | nil => exact List.nil_prefix
    | cons u us =>
      obtain ⟨rfl, others⟩ := List.cons_prefix_cons.1 begins
      rw [utf8ByteSize_cons] at within
      rw [fitting, if_pos (by omega), List.cons_prefix_cons]
      exact ⟨rfl, ih others (by omega)⟩

theorem utf8ByteSize_le_of_isPrefix {us cs : List Char} (begins : us <+: cs) :
    (String.ofList us).utf8ByteSize ≤ (String.ofList cs).utf8ByteSize := by
  obtain ⟨rest, rfl⟩ := begins
  rw [String.ofList_append, String.utf8ByteSize_append]
  exact Nat.le_add_right _ _

theorem longestWithin_kept (limit : Nat) (s : String) : LongestWithin limit s (kept limit s) where
  begins := by
    obtain ⟨rest, whole⟩ := fitting_isPrefix limit s.toList
    refine ⟨String.ofList rest, ?_⟩
    rw [kept, ← String.ofList_append, whole, String.ofList_toList]
  within := utf8ByteSize_fitting_le limit s.toList
  longest := by
    intro p valid small
    obtain ⟨t, rest, rfl, rfl⟩ := String.Pos.Raw.isValid_iff_exists_append.1 valid
    have begins : t.toList <+: (t ++ rest).toList := ⟨rest.toList, String.toList_append.symm⟩
    have fits : (String.ofList t.toList).utf8ByteSize ≤ limit := by
      rw [String.ofList_toList]
      exact small
    have shorter := utf8ByteSize_le_of_isPrefix (isPrefix_fitting begins fits)
    rw [String.ofList_toList] at shorter
    exact shorter

theorem lastBoundary_le (s : String) (n : Nat) : lastBoundary s n ≤ n := by
  induction n with
  | zero => exact Nat.le_refl 0
  | succ n ih =>
    rw [lastBoundary]
    split <;> omega

theorem isValid_lastBoundary (s : String) (n : Nat) : String.Pos.Raw.IsValid s ⟨lastBoundary s n⟩ := by
  induction n with
  | zero => exact String.Pos.Raw.isValid_zero
  | succ n ih =>
    rw [lastBoundary]
    split
    case isTrue valid => exact String.Pos.Raw.isValid_eq_true_iff.1 valid
    case isFalse cut => exact ih

theorem le_lastBoundary {s : String} {p : String.Pos.Raw} (valid : p.IsValid s) {n : Nat} (small : p.byteIdx ≤ n) :
    p.byteIdx ≤ lastBoundary s n := by
  induction n with
  | zero => exact small
  | succ n ih =>
    rw [lastBoundary]
    split
    case isTrue => exact small
    case isFalse cut =>
      have earlier : p.byteIdx ≠ n + 1 := by
        intro last
        obtain rfl : p = ⟨n + 1⟩ := String.Pos.Raw.ext last
        exact cut (String.Pos.Raw.isValid_eq_true_iff.2 valid)
      exact ih (by omega)

namespace LongestWithin

variable {limit : Nat} {s t : String}

theorem isValid (longest : LongestWithin limit s t) : t.rawEndPos.IsValid s := by
  obtain ⟨rest, whole⟩ := longest.begins
  exact String.Pos.Raw.isValid_iff_exists_append.2 ⟨t, rest, whole, rfl⟩

theorem eq_self_iff (longest : LongestWithin limit s t) : t = s ↔ s.utf8ByteSize ≤ limit := by
  constructor
  · rintro rfl
    exact longest.within
  · intro small
    obtain ⟨rest, whole⟩ := longest.begins
    have all : s.utf8ByteSize ≤ t.utf8ByteSize := longest.longest s.rawEndPos String.Pos.Raw.isValid_rawEndPos small
    have size := congrArg String.utf8ByteSize whole
    rw [String.utf8ByteSize_append] at size
    have nothing : rest = "" := String.utf8ByteSize_eq_zero_iff.1 (by omega)
    rw [whole, nothing, String.append_empty]

theorem le_add_three (longest : LongestWithin limit s t) (long : limit < s.utf8ByteSize) :
    limit ≤ t.utf8ByteSize + 3 := by
  obtain ⟨rest, whole⟩ := longest.begins
  cases spelled : rest.toList with
  | nil =>
    have all : t = s := by rw [whole, String.toList_eq_nil_iff.1 spelled, String.append_empty]
    have small := longest.eq_self_iff.1 all
    omega
  | cons c more =>
    have split : s = (t ++ String.singleton c) ++ String.ofList more := by
      rw [String.append_assoc, String.singleton_eq_ofList, ← String.ofList_append, List.singleton_append, ← spelled,
        String.ofList_toList]
      exact whole
    have valid : (t ++ String.singleton c).rawEndPos.IsValid s :=
      String.Pos.Raw.isValid_iff_exists_append.2 ⟨_, _, split, rfl⟩
    have size : (t ++ String.singleton c).rawEndPos.byteIdx = t.utf8ByteSize + c.utf8Size := by
      rw [String.byteIdx_rawEndPos, String.utf8ByteSize_append, String.utf8ByteSize_singleton]
    have width := c.utf8Size_le_four
    have filled := c.utf8Size_pos
    refine Nat.le_of_not_lt fun short => ?_
    have further := longest.longest _ valid (by omega)
    omega

theorem lastBoundary_eq (longest : LongestWithin limit s t) : lastBoundary s limit = t.utf8ByteSize := by
  have back := longest.longest _ (isValid_lastBoundary s limit) (lastBoundary_le s limit)
  have further := le_lastBoundary longest.isValid longest.within
  exact Nat.le_antisymm back further

theorem before?_eq (longest : LongestWithin limit s t) : before? s (lastBoundary s limit) = some t := by
  obtain ⟨rest, whole⟩ := longest.begins
  have bytes : s.toByteArray.extract 0 (lastBoundary s limit) = t.toByteArray := by
    rw [longest.lastBoundary_eq, whole, String.toByteArray_append]
    exact ByteArray.extract_append_eq_left rfl
  rw [before?, bytes, String.fromUTF8?, dif_pos t.isValidUTF8]
  rfl

theorem shorten?_eq (longest : LongestWithin limit s t) : shorten? limit s = some t := by
  rw [shorten?]
  split
  case isTrue small => rw [longest.eq_self_iff.2 small]
  case isFalse => exact longest.before?_eq

end LongestWithin

theorem shown_clip (limit : Option Nat) (s : String) : Shown limit s (clip limit s) := by
  cases limit with
  | none => exact .unlimited s
  | some limit =>
    unfold clip
    by_cases small : s.utf8ByteSize ≤ limit
    · simp only [if_pos small]
      exact .whole small
    · simp only [if_neg small]
      exact .cut (Nat.lt_of_not_le small) (longestWithin_kept limit s)

theorem clip_keeps_longest (s : String) (limit : Nat) :
    shorten? limit s = some (kept limit s) ∧ LongestWithin limit s (kept limit s) ∧
      (kept limit s = s ↔ s.utf8ByteSize ≤ limit) ∧
      (limit < s.utf8ByteSize → limit ≤ (kept limit s).utf8ByteSize + 3) ∧
      clip (some limit) s = (if s.utf8ByteSize ≤ limit then s else kept limit s ++ "...") ∧
      clip none s = s := by
  have longest := longestWithin_kept limit s
  exact ⟨longest.shorten?_eq, longest, longest.eq_self_iff, longest.le_add_three, rfl, rfl⟩

-- All but the last of the four bytes of a character would fit.
theorem clip_keeps_longest_cut :
    (6 < "añ😀".utf8ByteSize ∧ 6 ≤ (kept 6 "añ😀").utf8ByteSize + 3) ∧ shorten? 6 "añ😀" = some "añ" ∧
      LongestWithin 6 "añ😀" "añ" ∧ clip (some 6) "añ😀" = "añ..." := by
  have long : 6 < "añ😀".utf8ByteSize := by decide +kernel
  have left : kept 6 "añ😀" = "añ" := by decide +kernel
  obtain ⟨back, longest, -, short, clipped, -⟩ := clip_keeps_longest "añ😀" 6
  rw [if_neg (Nat.not_le_of_lt long), left] at clipped
  rw [left] at back longest
  exact ⟨⟨long, short long⟩, back, longest, clipped⟩

end BoundSelect.Text
