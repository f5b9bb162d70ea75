import BoundSelect.AliasPool
import BoundSelect.Proofs.Identifier.Reading
import BoundSelect.Proofs.Outcome
import BoundSelect.Proofs.Text.Letters

set_option autoImplicit false

namespace BoundSelect

theorem Identifier.isLower_initial (i : Identifier) : i.initial.isLower := by
  have first (letters : List Char) :
      (((letters.find? Char.isAlpha).map Char.toLower).getD 't').isLower := by
    cases found : letters.find? Char.isAlpha with
    | none => rfl
    | some c => exact Text.isLower_toLower (List.find?_some found)
  exact first _

namespace AliasPool

open Outcome

theorem toList_candidate (initial : Char) (n : Nat) :
    (candidate initial n).toList = initial :: Nat.toDigits 10 n := by
  rw [candidate, String.toList_append, String.toList_singleton, ← Nat.toList_repr]
  rfl

theorem wellFormed_candidate {initial : Char} (h : initial.isLower) (n : Nat) :
    (Name.plain (candidate initial n)).WellFormed := by
  refine ⟨initial, Nat.toDigits 10 n, toList_candidate initial n, ?_, ?_⟩
  · simp [Name.isStart, Text.isAlpha_iff.2 (.inr h)]
  · intro d hd
    have digit : d.isDigit := Nat.isDigit_of_mem_toDigits (by decide) (by decide) hd
    simp [Name.isFollower, Char.isAlphanum, digit]

theorem toLower_candidate {initial : Char} (h : initial.isLower) (n : Nat) :
    (candidate initial n).toLower = candidate initial n := by
  have fixed : ∀ c ∈ (candidate initial n).toList, c.toLower = c := by
    intro c hc
    rw [toList_candidate] at hc
    apply Text.toLower_of_isUpper_eq_false
    rcases List.mem_cons.1 hc with rfl | hc
    · exact Text.isUpper_eq_false_of_isLower h
    · exact Text.isUpper_eq_false_of_isDigit (Nat.isDigit_of_mem_toDigits (by decide) (by decide) hc)
  apply String.toList_injective
  calc (candidate initial n).toLower.toList
    _ = (candidate initial n).toList.map Char.toLower := String.toList_map
    _ = (candidate initial n).toList := (List.map_congr_left fixed).trans (List.map_id' _)

theorem key_candidate (table : Identifier) (n : Nat) :
    (Name.plain (candidate table.initial n)).key = candidate table.initial n :=
  toLower_candidate table.isLower_initial n

theorem candidate_injective {initial other : Char} {m n : Nat}
    (h : candidate initial m = candidate other n) : m = n := by
  have spelled := congrArg String.toList h
  rw [toList_candidate, toList_candidate] at spelled
  have digits := (List.cons.inj spelled).2
  rw [← Nat.ofDigitChars_ten_toDigits (n := m), digits, Nat.ofDigitChars_ten_toDigits]

theorem le_firstFree (initial : Char) (taken : List String) (n : Nat) :
    n ≤ firstFree initial taken n := by
  fun_induction firstFree initial taken n with
  | case1 taken n hit ih => omega
  | case2 taken n free => exact Nat.le_refl n

theorem candidate_firstFree_notMem (initial : Char) (taken : List String) (n : Nat) :
    candidate initial (firstFree initial taken n) ∉ taken := by
  fun_induction firstFree initial taken n with
  | case1 taken n hit ih =>
    have later := le_firstFree initial (taken.erase (candidate initial n)) (n + 1)
    intro again
    apply ih
    -- The candidate that was erased is not met again, since the numbers go up.
    refine (List.mem_erase_of_ne ?_).2 again
    intro same
    have number := candidate_injective same
    omega
  | case2 taken n free => exact free

theorem candidate_mem_of_lt_firstFree {initial : Char} {taken : List String} {n m : Nat} (later : n ≤ m)
    (skipped : m < firstFree initial taken n) : candidate initial m ∈ taken := by
  fun_induction firstFree initial taken n with
  | case1 taken n hit ih =>
    by_cases first : m = n
    · rw [first]
      exact hit
    · exact List.mem_of_mem_erase (ih (by omega) skipped)
  | case2 taken n free => omega

theorem firstFree_eq_of_subset {initial : Char} {taken more : List String} {n : Nat} (kept : taken ⊆ more)
    (free : candidate initial (firstFree initial taken n) ∉ more) :
    firstFree initial more n = firstFree initial taken n := by
  have first := le_firstFree initial taken n
  have firstMore := le_firstFree initial more n
  have freeMore := candidate_firstFree_notMem initial more n
  by_contra different
  by_cases earlier : firstFree initial more n < firstFree initial taken n
  · have skipped := candidate_mem_of_lt_firstFree firstMore earlier
    exact freeMore (kept skipped)
  · exact free (candidate_mem_of_lt_firstFree first (by omega))

theorem ofAliases_cons {text : String} {name : Name} (read : Name.parse text = .ok name)
    (rest : List String) : ofAliases (text :: rest) = (ofAliases rest).reserve name := by
  simp [ofAliases, reserve, read, Except.toOption]

theorem choose_some (pool : AliasPool) (text : String) (table : Identifier) :
    pool.choose (some text) table = (fun name => (name, pool)) <$> Name.parse text := by
  rw [choose, bind_pure_comp]

theorem choose_eq_ok_iff {pool next : AliasPool} {explicit : Option String} {table : Identifier}
    {name : Name} :
    pool.choose explicit table = .ok (name, next) ↔
      (∃ text, explicit = some text ∧ Name.parse text = .ok name ∧ next = pool) ∨
      (explicit = none ∧ pool.allocate table = (name, next)) := by
  cases explicit with
  | none => simp [choose, pure, Except.pure]
  | some text =>
    simp only [choose, bind_eq_ok_iff, pure_eq_ok_iff, Prod.mk.injEq, reduceCtorEq, false_and,
      or_false, Option.some.injEq]
    constructor
    · rintro ⟨n, read, rfl, rfl⟩
      exact ⟨text, rfl, read, rfl⟩
    · rintro ⟨_, rfl, read, rfl⟩
      exact ⟨name, read, rfl, rfl⟩

theorem wellFormed_of_choose {pool next : AliasPool} {explicit : Option String}
    {table : Identifier} {name : Name} (h : pool.choose explicit table = .ok (name, next)) :
    name.WellFormed := by
  rcases choose_eq_ok_iff.1 h with ⟨text, rfl, read, rfl⟩ | ⟨rfl, made⟩
  · exact (Name.parse_sound read).1
  · obtain ⟨rfl, -⟩ := Prod.mk.inj made
    exact wellFormed_candidate table.isLower_initial _

end AliasPool

end BoundSelect
