import BoundSelect.Operator
import BoundSelect.Proofs.Text.Letters
import Mathlib.Data.List.TakeWhile

set_option autoImplicit false

namespace BoundSelect.Text

theorem isBlank_eq_false {c : Char} (low : 0x20 < c.toNat) (high : c.toNat < 0x85) : isBlank c = false := by
  simp only [isBlank, blankRanges, List.any_cons, List.any_nil, Bool.or_eq_false_iff, Bool.and_eq_false_iff,
    decide_eq_false_iff_not, and_true]
  omega

theorem isBlank_toUpper (c : Char) : isBlank c.toUpper = isBlank c := by
  by_cases lower : c.isLower
  · have shifted := toNat_toUpper lower
    obtain ⟨first, last⟩ := isLower_iff.1 lower
    have a : 'a'.toNat = 97 := rfl
    have z : 'z'.toNat = 122 := rfl
    have dark : isBlank c = false := isBlank_eq_false (by omega) (by omega)
    have darkUpper : isBlank c.toUpper = false := isBlank_eq_false (by omega) (by omega)
    rw [dark, darkUpper]
  · rw [toUpper_of_isLower_eq_false (Bool.eq_false_iff.2 lower)]

theorem runs_map {change : Char → Char} (same : ∀ c, isBlank (change c) = isBlank c) (cs : List Char) :
    runs (cs.map change) = (runs cs).map (List.map change) := by
  have dark : (fun c => !isBlank c) ∘ change = fun c => !isBlank c := funext fun c => congrArg not (same c)
  fun_induction runs cs with
  | case1 => rw [List.map_nil, runs, List.map_nil]
  | case2 c rest blank ih => rw [List.map_cons, runs, same, if_pos blank, ih]
  | case3 c rest notBlank ih =>
    rw [List.map_cons, runs, same, if_neg notBlank, List.takeWhile_map, List.dropWhile_map, dark, ih]
    rfl

theorem foldedWords_eq_map (s : String) :
    foldedWords s = ((runs s.toList).map (List.map Char.toUpper)).map String.ofList := by
  rw [foldedWords, words, List.map_map, List.map_map]
  refine List.map_congr_left fun word _ => ?_
  apply String.toList_inj.1
  simp [String.toUpper]

theorem foldedWords_eq (s : String) : foldedWords s = words s.toUpper := by
  have upper : s.toUpper.toList = s.toList.map Char.toUpper := String.toList_map
  rw [foldedWords_eq_map, words, upper, runs_map isBlank_toUpper]

theorem findKeyword_of_toUpper {α : Type} (spelling : α → String) (candidates : List α) {s t : String}
    (same : s.toUpper = t.toUpper) : findKeyword spelling candidates s = findKeyword spelling candidates t :=
  findKeyword_congr spelling candidates (by rw [foldedWords_eq, foldedWords_eq, same])

theorem keyword_of_blank {s : String} (blank : isAllBlank s) : keyword s = "" := by
  have none : s.toList.dropWhile isBlank = [] := List.dropWhile_eq_nil_iff.2 (List.all_eq_true.1 blank)
  have empty : trim s = "" := by
    rw [trim, none]
    rfl
  simp [keyword, empty, String.toUpper]

end BoundSelect.Text

namespace BoundSelect.Operator

theorem parse?_of_toUpper {token other : String} (same : token.toUpper = other.toUpper) :
    parse? token = parse? other :=
  Text.findKeyword_of_toUpper text all same

theorem parse?_process : parse? "process" = none := by
  have upper : "process".toUpper = "PROCESS".toUpper := by
    apply String.toList_inj.1
    simp [String.toUpper]
  have unknown : parse? "PROCESS" = none := by decide +kernel
  rw [parse?_of_toUpper upper, unknown]

theorem ne_process_of_parse? {token : String} {o : Operator} (names : parse? token = some o) : token ≠ "process" := by
  rintro rfl
  rw [parse?_process] at names
  cases names

end BoundSelect.Operator
