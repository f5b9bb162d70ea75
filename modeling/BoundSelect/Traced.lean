import BoundSelect.Fault
import BoundSelect.Settings
import BoundSelect.Text.Clip

set_option autoImplicit false

namespace BoundSelect

inductive StatementKind where
  | select | recursive
  deriving DecidableEq, Repr

inductive Event where
  -- The table is the main one, or the name of the statement if it is recursive.
  | assembled (level : Level) (kind : StatementKind) (table : String) (binds : Nat) (text : String)
  | sideDropped (side table : String)
  | optionIgnored (tag : String)
  deriving DecidableEq, Repr

namespace Event

def level : Event → Level
  | assembled level .. => level
  | sideDropped .. | optionIgnored _ => .debug

def message : Event → String
  | assembled .. => "statement assembled"
  | sideDropped .. => "unrecognized join side dropped"
  | optionIgnored _ => "ignoring unknown option"

end Event

structure Traced (α : Type) where
  events : List Event
  outcome : Except Fault α

namespace Traced

variable {α β γ : Type}

def ofExcept (x : Except Fault α) : Traced α := ⟨[], x⟩

def report (e : Event) : Traced Unit := ⟨[e], .ok ()⟩

def fail (f : Fault) : Traced α := ⟨[], .error f⟩

protected def bind (x : Traced α) (f : α → Traced β) : Traced β :=
  match x.outcome with
  | .error fault => ⟨x.events, .error fault⟩
  | .ok a =>
      let y := f a
      ⟨x.events ++ y.events, y.outcome⟩

instance : Monad Traced where
  pure a := ⟨[], .ok a⟩
  bind := Traced.bind

private theorem map_id (x : Traced α) : id <$> x = x := by
  rcases x with ⟨events, _ | a⟩ <;> simp [Functor.map, Traced.bind]

private theorem bind_assoc (x : Traced α) (f : α → Traced β) (g : β → Traced γ) :
    (x.bind f).bind g = x.bind fun a => (f a).bind g := by
  rcases x with ⟨events, fault | a⟩
  · rfl
  · simp only [Traced.bind]
    cases (f a).outcome <;> simp

instance : LawfulMonad Traced :=
  LawfulMonad.mk' Traced map_id (fun _ _ => by simp [bind, pure, Traced.bind]) bind_assoc

instance : MonadLift (Except Fault) Traced := ⟨ofExcept⟩

end Traced

end BoundSelect
