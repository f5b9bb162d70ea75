import BoundSelect.Identifier.Reader

set_option autoImplicit false

namespace BoundSelect

structure AliasPool where
  next : Nat := 0
  taken : List String := []

namespace AliasPool

def candidate (initial : Char) (n : Nat) : String := String.singleton initial ++ toString n

def firstFree (initial : Char) (taken : List String) (n : Nat) : Nat :=
  if _hit : candidate initial n ∈ taken then
    -- A later candidate is never the same, so this one need not be looked at again.
    firstFree initial (taken.erase (candidate initial n)) (n + 1)
  else n
termination_by taken.length
decreasing_by
  rw [List.length_erase_of_mem _hit]
  have := List.length_pos_of_mem _hit
  omega

-- A text that is no alias reserves nothing; it is reported once its table is reached.
def ofAliases (explicit : List String) : AliasPool where
  taken := explicit.filterMap fun text => (Name.parse text).toOption.map Name.key

def reserve (pool : AliasPool) (name : Name) : AliasPool :=
  { pool with taken := name.key :: pool.taken }

def allocate (pool : AliasPool) (table : Identifier) : Name × AliasPool :=
  let n := firstFree table.initial pool.taken pool.next
  let letters := candidate table.initial n
  (.plain letters, { next := n + 1, taken := letters :: pool.taken })

def choose (pool : AliasPool) (explicit : Option String) (table : Identifier) :
    Except Identifier.Flaw (Name × AliasPool) :=
  match explicit with
  | some text => do return (← Name.parse text, pool)
  | none => return pool.allocate table

end AliasPool

end BoundSelect
