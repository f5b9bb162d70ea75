import BoundSelect.Proofs.AliasPool
import Mathlib.Data.Finset.Card
import Mathlib.Order.Bounds.Defs
import Mathlib.Order.Interval.Finset.Nat

set_option autoImplicit false

namespace BoundSelect.AliasPool

def attempt (initial : Char) (pool : AliasPool) : Option Name × AliasPool :=
  let name := Name.plain (candidate initial pool.next)
  if name.key ∈ pool.taken then (none, { pool with next := pool.next + 1 })
  else (some name, { next := pool.next + 1, taken := name.key :: pool.taken })

def attempts (initial : Char) : (tries : Nat) → AliasPool → Option (Name × AliasPool)
  | 0, _ => none
  | tries + 1, pool =>
      match pool.attempt initial with
      | (some name, next) => some (name, next)
      | (none, next) => attempts initial tries next

theorem firstFree_of_notMem {initial : Char} {taken : List String} {n : Nat}
    (free : candidate initial n ∉ taken) : firstFree initial taken n = n := by
  rw [firstFree, dif_neg free]

theorem firstFree_of_mem {initial : Char} {taken : List String} {n : Nat} (hit : candidate initial n ∈ taken) :
    firstFree initial taken n = firstFree initial taken (n + 1) := by
  have found := candidate_firstFree_notMem initial taken n
  rw [firstFree, dif_pos hit] at found ⊢
  exact (firstFree_eq_of_subset List.erase_subset found).symm

theorem firstFree_le (initial : Char) (taken : List String) (n : Nat) :
    firstFree initial taken n ≤ n + taken.toFinset.card := by
  have used : Set.MapsTo (candidate initial) (Finset.Ico n (firstFree initial taken n)) taken.toFinset := by
    intro m hm
    obtain ⟨later, skipped⟩ := Finset.mem_Ico.1 hm
    exact List.mem_toFinset.2 (candidate_mem_of_lt_firstFree later skipped)
  have different : Set.InjOn (candidate initial) (Finset.Ico n (firstFree initial taken n)) :=
    fun _ _ _ _ same => candidate_injective same
  have count := Finset.card_le_card_of_injOn (candidate initial) used different
  rw [Nat.card_Ico] at count
  omega

theorem firstFree_isLeast (initial : Char) (taken : List String) (n : Nat) :
    IsLeast {k | n ≤ k ∧ candidate initial k ∉ taken} (firstFree initial taken n) := by
  refine ⟨⟨le_firstFree initial taken n, candidate_firstFree_notMem initial taken n⟩, ?_⟩
  rintro k ⟨later, free⟩
  by_contra before
  exact free (candidate_mem_of_lt_firstFree later (Nat.lt_of_not_le before))

variable (pool : AliasPool) (table : Identifier)

theorem attempt_of_mem (hit : candidate table.initial pool.next ∈ pool.taken) :
    pool.attempt table.initial = (none, { pool with next := pool.next + 1 }) := by
  simp only [attempt, key_candidate, if_pos hit]

theorem attempt_of_notMem (free : candidate table.initial pool.next ∉ pool.taken) :
    pool.attempt table.initial =
      (some (.plain (candidate table.initial pool.next)),
        { next := pool.next + 1, taken := candidate table.initial pool.next :: pool.taken }) := by
  simp only [attempt, key_candidate, if_neg free]

theorem allocate_of_mem (hit : candidate table.initial pool.next ∈ pool.taken) :
    pool.allocate table = allocate { pool with next := pool.next + 1 } table := by
  simp only [allocate, firstFree_of_mem hit]

theorem attempts_eq (tries : Nat) :
    pool.attempts table.initial tries =
      if firstFree table.initial pool.taken pool.next < pool.next + tries then some (pool.allocate table)
      else none := by
  induction tries generalizing pool with
  | zero =>
    have first := le_firstFree table.initial pool.taken pool.next
    rw [attempts, if_neg (by omega)]
  | succ tries ih =>
    by_cases hit : candidate table.initial pool.next ∈ pool.taken
    · rw [attempts, attempt_of_mem pool table hit, firstFree_of_mem hit, allocate_of_mem pool table hit]
      simp only [ih, Nat.add_assoc, Nat.add_comm 1]
    · have here := firstFree_of_notMem hit
      rw [attempts, attempt_of_notMem pool table hit, here, if_pos (by omega)]
      simp only [allocate, here]

theorem allocate_takes_first :
    ∃ k tries, IsLeast {n | pool.next ≤ n ∧ candidate table.initial n ∉ pool.taken} k ∧
      pool.allocate table =
        (.plain (candidate table.initial k),
          { next := k + 1, taken := candidate table.initial k :: pool.taken }) ∧
      tries ≤ pool.taken.toFinset.card + 1 ∧
      ∀ n, pool.attempts table.initial n = if n < tries then none else some (pool.allocate table) := by
  have first := le_firstFree table.initial pool.taken pool.next
  have last := firstFree_le table.initial pool.taken pool.next
  refine ⟨firstFree table.initial pool.taken pool.next,
    firstFree table.initial pool.taken pool.next + 1 - pool.next,
    firstFree_isLeast _ _ _, rfl, by omega, fun n => ?_⟩
  rw [attempts_eq]
  by_cases enough : firstFree table.initial pool.taken pool.next < pool.next + n
  · rw [if_pos enough, if_neg (by omega)]
  · rw [if_neg enough, if_pos (by omega)]

example : ((mk 0 ["u1", "o2", "u0"]).allocate ⟨[], .name (.plain "Users")⟩).1.text = "u2" := by decide +kernel

end BoundSelect.AliasPool
