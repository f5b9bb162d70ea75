import BoundSelect.Proofs.Outcome

set_option autoImplicit false

namespace BoundSelect.Outcome

variable {ε ε' α β σ χ : Type}

def fault? : Except ε α → Option ε
  | .error e => some e
  | .ok _ => none

theorem eq_error_iff {x : Except ε α} {e : ε} : x = .error e ↔ fault? x = some e := by
  cases x <;> simp [fault?]

theorem exists_ok_iff {x : Except ε α} : (∃ a, x = .ok a) ↔ fault? x = none := by
  cases x <;> simp [fault?]

theorem fault?_map (f : α → β) (x : Except ε α) : fault? (f <$> x) = fault? x := by
  cases x <;> rfl

theorem fault?_mapError (f : ε → ε') (x : Except ε α) : fault? (x.mapError f) = (fault? x).map f := by
  cases x <;> rfl

def FirstFault (fault : χ → Option ε) (l : List χ) (x : Except ε α) : Prop :=
  fault? x = l.findSome? fault

namespace FirstFault

variable {fault : χ → Option ε} {l l' : List χ} {x : Except ε α}

theorem pure (a : α) : FirstFault fault [] (pure a : Except ε α) := rfl

theorem one {c : χ} (h : fault? x = fault c) : FirstFault fault [c] x := by
  rw [FirstFault, h, List.findSome?_singleton]

theorem error {c : χ} {e : ε} (h : fault c = some e) :
    FirstFault fault (c :: l) (.error e : Except ε α) := by
  rw [FirstFault, List.findSome?_cons, h, fault?]

theorem cons {c : χ} (h : fault c = none) (first : FirstFault fault l x) :
    FirstFault fault (c :: l) x := by
  rwa [FirstFault, List.findSome?_cons, h]

theorem map (f : α → β) (first : FirstFault fault l x) : FirstFault fault l (f <$> x) :=
  (fault?_map f x).trans first

theorem map_items {χ' : Type} {fault' : χ' → Option ε} {g : χ → χ'} (same : ∀ c, fault' (g c) = fault c)
    (first : FirstFault fault l x) : FirstFault fault' (l.map g) x := by
  have agree : fault' ∘ g = fault := funext same
  rw [FirstFault, List.findSome?_map, agree, first]

theorem bind_pure (f : α → β) (first : FirstFault fault l x) :
    FirstFault fault l (x >>= fun a => Pure.pure (f a)) := by
  rw [bind_pure_comp]
  exact first.map f

theorem bind {f : α → Except ε β} (first : FirstFault fault l x)
    (next : ∀ a, FirstFault fault l' (f a)) : FirstFault fault (l ++ l') (x >>= f) := by
  unfold FirstFault at *
  rw [List.findSome?_append, ← first]
  cases x with
  | error e => rfl
  | ok a => exact next a

theorem mapM {f : α → Except ε β} {items : α → List χ} (each : ∀ a, FirstFault fault (items a) (f a))
    (as : List α) : FirstFault fault (as.flatMap items) (as.mapM f) := by
  induction as with
  | nil => exact pure _
  | cons a rest ih =>
    rw [List.mapM_cons, List.flatMap_cons]
    exact (each a).bind fun b => ih.bind_pure (b :: ·)

theorem foldlM {step : σ → α → Except ε σ} {items : α → List χ}
    (each : ∀ s a, FirstFault fault (items a) (step s a)) (as : List α) (s : σ) :
    FirstFault fault (as.flatMap items) (as.foldlM step s) := by
  induction as generalizing s with
  | nil => exact pure _
  | cons a rest ih =>
    rw [List.foldlM_cons, List.flatMap_cons]
    exact (each s a).bind fun t => ih t

theorem exists_ok_iff (first : FirstFault fault l x) : (∃ a, x = .ok a) ↔ ∀ c ∈ l, fault c = none := by
  rw [Outcome.exists_ok_iff, first, List.findSome?_eq_none_iff]

theorem eq_error_iff {e : ε} (first : FirstFault fault l x) :
    x = .error e ↔ ∃ before c after, l = before ++ c :: after ∧ fault c = some e ∧
      ∀ b ∈ before, fault b = none := by
  rw [Outcome.eq_error_iff, first, List.findSome?_eq_some_iff]

end FirstFault

end BoundSelect.Outcome
