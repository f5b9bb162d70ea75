import BoundSelect.Proofs.Text.Keyword
import Mathlib.Data.List.Forall2

set_option autoImplicit false

namespace BoundSelect.Text

-- Each word goes on to the next blank or to the end, and outside of the words there are only blanks.
inductive Worded : List Char → List (List Char) → Prop
  | nil : Worded [] []
  | blank {c : Char} {rest : List Char} {words : List (List Char)} (blank : isBlank c) (others : Worded rest words) :
      Worded (c :: rest) words
  | word {word rest : List Char} {words : List (List Char)} (filled : word ≠ [])
      (dark : ∀ c ∈ word, isBlank c = false) (ends : ∀ c ∈ rest.head?, isBlank c) (others : Worded rest words) :
      Worded (word ++ rest) (word :: words)

def SameLetter (c d : Char) : Prop :=
  c = d ∨ (c.isLower ∧ c.toNat = d.toNat + 32) ∨ (d.isLower ∧ d.toNat = c.toNat + 32)

def SameWords (ws vs : List (List Char)) : Prop := List.Forall₂ (List.Forall₂ SameLetter) ws vs

def Spells (s keyword : String) : Prop :=
  ∃ ws, Worded s.toList ws ∧ SameWords ws (keyword.toList.splitOn ' ')

def Alike (s t : String) : Prop :=
  ∃ ws vs, Worded s.toList ws ∧ Worded t.toList vs ∧ SameWords ws vs

theorem runs_append_of_dark {word rest : List Char} (filled : word ≠ []) (dark : ∀ c ∈ word, isBlank c = false)
    (ends : ∀ c ∈ rest.head?, isBlank c) : runs (word ++ rest) = word :: runs rest := by
  cases word with
  | nil => exact absurd rfl filled
  | cons c word =>
    rw [List.forall_mem_cons] at dark
    have inside : ∀ d ∈ word, (!isBlank d) = true := fun d hd => by simp [dark.2 d hd]
    have stop : ∀ d ∈ rest.head?, (!isBlank d) = false := fun d hd => by simp [ends d hd]
    obtain ⟨taken, left⟩ := span_append inside stop
    rw [List.cons_append, runs, if_neg (by simp [dark.1]), taken, left]

theorem worded_runs (cs : List Char) : Worded cs (runs cs) := by
  fun_induction runs cs with
  | case1 => exact .nil
  | case2 c rest blank ih => exact .blank blank ih
  | case3 c rest notBlank ih =>
    have dark : ∀ d ∈ c :: rest.takeWhile (!isBlank ·), isBlank d = false := by
      rw [List.forall_mem_cons]
      refine ⟨Bool.eq_false_iff.2 notBlank, fun d hd => ?_⟩
      simpa using List.all_eq_true.1 List.all_takeWhile d hd
    have ends : ∀ d ∈ (rest.dropWhile (!isBlank ·)).head?, isBlank d := by
      intro d hd
      have last := List.head?_dropWhile_not (!isBlank ·) rest
      rw [Option.mem_def.1 hd] at last
      simpa using last
    have whole := Worded.word (List.cons_ne_nil c _) dark ends ih
    rwa [List.cons_append, List.takeWhile_append_dropWhile] at whole

theorem worded_iff {cs : List Char} {ws : List (List Char)} : Worded cs ws ↔ runs cs = ws := by
  constructor
  · intro worded
    induction worded with
    | nil => rw [runs]
    | blank blank others ih => rw [runs, if_pos blank, ih]
    | word filled dark ends others ih => rw [runs_append_of_dark filled dark ends, ih]
  · rintro rfl
    exact worded_runs cs

theorem sameLetter_iff (c d : Char) : SameLetter c d ↔ c.toUpper = d.toUpper := by
  have number (c : Char) : c.toUpper.toNat = if c.isLower then c.toNat - 32 else c.toNat := by
    split
    next lower =>
      have raised := toNat_toUpper lower
      omega
    next other => rw [toUpper_of_isLower_eq_false (Bool.eq_false_iff.2 other)]
  have a : 'a'.toNat = 97 := rfl
  have z : 'z'.toNat = 122 := rfl
  unfold SameLetter
  rw [← Char.toNat_inj, ← Char.toNat_inj (c := c.toUpper), number, number]
  simp only [isLower_iff]
  split <;> split <;> omega

theorem forall₂_iff_map_eq {α β : Type} {R : α → α → Prop} {f : α → β} (agree : ∀ a b, R a b ↔ f a = f b)
    (as bs : List α) : List.Forall₂ R as bs ↔ as.map f = bs.map f := by
  have rel : R = fun a b => f a = f b := by
    funext a b
    exact propext (agree a b)
  rw [rel, ← List.forall₂_map_right_iff, ← List.forall₂_map_left_iff, List.forall₂_eq_eq_eq]

theorem sameWords_iff {ws vs : List (List Char)} :
    SameWords ws vs ↔ ws.map (List.map Char.toUpper) = vs.map (List.map Char.toUpper) :=
  forall₂_iff_map_eq (forall₂_iff_map_eq sameLetter_iff) ws vs

theorem foldedWords_eq_iff {s t : String} :
    foldedWords s = foldedWords t ↔ SameWords (runs s.toList) (runs t.toList) := by
  rw [foldedWords_eq_map, foldedWords_eq_map, List.map_inj_right fun _ _ => String.ofList_injective, sameWords_iff]

theorem alike_iff {s t : String} : Alike s t ↔ foldedWords s = foldedWords t := by
  rw [foldedWords_eq_iff]
  constructor
  · rintro ⟨ws, vs, worded, wordedT, same⟩
    rwa [worded_iff.1 worded, worded_iff.1 wordedT]
  · intro same
    exact ⟨_, _, worded_runs _, worded_runs _, same⟩

theorem spells_iff {s keyword : String} :
    Spells s keyword ↔ SameWords (runs s.toList) (keyword.toList.splitOn ' ') := by
  constructor
  · rintro ⟨ws, worded, same⟩
    rwa [worded_iff.1 worded]
  · intro same
    exact ⟨_, worded_runs _, same⟩

instance (ws vs : List (List Char)) : Decidable (SameWords ws vs) := decidable_of_iff _ sameWords_iff.symm

instance (s t : String) : Decidable (Alike s t) := decidable_of_iff _ (alike_iff.trans foldedWords_eq_iff).symm

instance (s keyword : String) : Decidable (Spells s keyword) := decidable_of_iff _ spells_iff.symm

end BoundSelect.Text
