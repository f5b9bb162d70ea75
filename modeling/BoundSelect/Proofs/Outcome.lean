import BoundSelect.Traced
import Mathlib.Data.List.Forall2

set_option autoImplicit false

namespace BoundSelect

variable {ε ε' α β σ : Type}

namespace Outcome

theorem bind_eq_ok_iff {x : Except ε α} {f : α → Except ε β} {b : β} :
    (x >>= f) = .ok b ↔ ∃ a, x = .ok a ∧ f a = .ok b := by
  cases x <;> simp [bind, Except.bind]

theorem map_eq_ok_iff {x : Except ε α} {f : α → β} {b : β} :
    f <$> x = .ok b ↔ ∃ a, x = .ok a ∧ f a = b := by
  cases x <;> simp [Functor.map, Except.map]

theorem map_eq_ok {x : Except ε α} {a : α} (f : α → β) (h : x = .ok a) : f <$> x = .ok (f a) :=
  map_eq_ok_iff.2 ⟨a, h, rfl⟩

theorem isOk_iff {x : Except ε α} : x.isOk ↔ ∃ a, x = .ok a := by
  cases x <;> simp [Except.isOk, Except.toBool]

theorem exists_ok_of_toOption {x : Except ε α} {f : α → β} {b : β} (h : x.toOption.map f = some b) :
    ∃ a, x = .ok a ∧ f a = b := by
  obtain ⟨a, found, same⟩ := Option.map_eq_some_iff.1 h
  cases x with
  | error e => cases found
  | ok a' =>
    cases found
    exact ⟨a, rfl, same⟩

theorem pure_eq_ok_iff {a b : α} : (pure a : Except ε α) = .ok b ↔ a = b := by
  simp [pure, Except.pure]

theorem mapError_eq_ok_iff {x : Except ε α} {f : ε → ε'} {a : α} :
    x.mapError f = .ok a ↔ x = .ok a := by
  cases x <;> simp [Except.mapError]

theorem lift_eq_ok_iff {x : Except Identifier.Flaw α} {a : α} :
    (liftM x : Except Fault α) = .ok a ↔ x = .ok a :=
  mapError_eq_ok_iff

theorem lift_flaw_map (x : Except Identifier.Flaw α) (f : α → β) :
    (liftM (f <$> x) : Except Fault β) = f <$> (liftM x : Except Fault α) := by
  cases x <;> rfl

theorem mapM_eq_ok_iff {f : α → Except ε β} {l : List α} {r : List β} :
    l.mapM f = .ok r ↔ List.Forall₂ (fun a b => f a = .ok b) l r := by
  induction l generalizing r with
  | nil => rw [List.mapM_nil, pure_eq_ok_iff, List.forall₂_nil_left_iff, eq_comm]
  | cons a rest ih =>
    simp only [List.mapM_cons, bind_eq_ok_iff, pure_eq_ok_iff, List.forall₂_cons_left_iff, ih]
    constructor
    · rintro ⟨b, first, s, others, rfl⟩
      exact ⟨b, s, first, others, rfl⟩
    · rintro ⟨b, s, first, others, rfl⟩
      exact ⟨b, first, s, others, rfl⟩

theorem exists_of_mem_forall₂ {R : α → β → Prop} {l : List α} {r : List β} {b : β}
    (items : List.Forall₂ R l r) (hb : b ∈ r) : ∃ a ∈ l, R a b := by
  induction items with
  | nil => simp at hb
  | cons first others ih =>
    rcases List.mem_cons.1 hb with rfl | hb
    · exact ⟨_, List.mem_cons_self, first⟩
    · obtain ⟨a, ha, found⟩ := ih hb
      exact ⟨a, List.mem_cons_of_mem _ ha, found⟩

theorem exists_of_mem_mapM {f : α → Except ε β} {l : List α} {r : List β} {b : β}
    (h : l.mapM f = .ok r) (hb : b ∈ r) : ∃ a ∈ l, f a = .ok b :=
  exists_of_mem_forall₂ (R := fun a b => f a = .ok b) (mapM_eq_ok_iff.1 h) hb

theorem map_eq_of_mapM {γ : Type} {f : α → Except ε β} {before : α → γ} {after : β → γ} {l : List α}
    {r : List β} (agree : ∀ a b, f a = .ok b → after b = before a) (h : l.mapM f = .ok r) :
    r.map after = l.map before := by
  have items := mapM_eq_ok_iff.1 h
  clear h
  induction items with
  | nil => rfl
  | cons first others ih => rw [List.map_cons, List.map_cons, agree _ _ first, ih]

theorem foldlM_cons_eq_ok_iff {step : σ → α → Except ε σ} {a : α} {rest : List α} {s t : σ} :
    (a :: rest).foldlM step s = .ok t ↔
      ∃ next, step s a = .ok next ∧ rest.foldlM step next = .ok t := by
  rw [List.foldlM_cons, bind_eq_ok_iff]

section

variable {m : Type → Type} [Monad m] [LawfulMonad m]

theorem mapM_map_of_comm {γ δ : Type} {f : α → m γ} {g : β → m δ} {change : α → β} {after : γ → δ}
    (comm : ∀ a, g (change a) = after <$> f a) (l : List α) :
    (l.map change).mapM g = List.map after <$> l.mapM f := by
  induction l with
  | nil => simp only [List.map_nil, List.mapM_nil, map_pure]
  | cons a rest ih =>
    simp only [List.map_cons, List.mapM_cons, comm, ih, map_bind, bind_map_left, map_pure]

theorem mapM_map_eq_pure {γ : Type} {read : β → m γ} {write : α → β} {after : α → γ} {l : List α}
    (back : ∀ a ∈ l, read (write a) = pure (after a)) :
    (l.map write).mapM read = pure (l.map after) := by
  induction l with
  | nil => rw [List.map_nil, List.map_nil, List.mapM_nil]
  | cons a rest ih =>
    have first := back a List.mem_cons_self
    have others := ih fun b hb => back b (List.mem_cons_of_mem a hb)
    rw [List.map_cons, List.mapM_cons, first, pure_bind, others, pure_bind, List.map_cons]

theorem foldlM_map_of_comm {step : σ → α → m σ} {change : α → α} {after : σ → σ}
    (comm : ∀ s a, step (after s) (change a) = after <$> step s a) (l : List α) (s : σ) :
    (l.map change).foldlM step (after s) = after <$> l.foldlM step s := by
  induction l generalizing s with
  | nil => simp only [List.map_nil, List.foldlM_nil, map_pure]
  | cons a rest ih =>
    simp only [List.map_cons, List.foldlM_cons, comm, ih, map_bind, bind_map_left]

theorem foldlM_eq_map_of_comm {step : σ → α → m σ} {after : σ → σ} {l : List α}
    (comm : ∀ s, ∀ a ∈ l, step (after s) a = after <$> step s a) (s : σ) :
    l.foldlM step (after s) = after <$> l.foldlM step s := by
  induction l generalizing s with
  | nil => simp only [List.foldlM_nil, map_pure]
  | cons a rest ih =>
    have others : ∀ s, ∀ b ∈ rest, step (after s) b = after <$> step s b :=
      fun s b hb => comm s b (List.mem_cons_of_mem a hb)
    simp only [List.foldlM_cons, comm s a List.mem_cons_self, ih others, map_bind, bind_map_left]

end

theorem toOption_eq_some_iff {x : Except ε α} {a : α} : x.toOption = some a ↔ x = .ok a := by
  cases x <;> simp [Except.toOption]

theorem toOption_bind (x : Except ε α) (f : α → Except ε β) :
    (x >>= f).toOption = x.toOption.bind fun a => (f a).toOption := by
  cases x <;> rfl

theorem toOption_map (f : α → β) (x : Except ε α) : (f <$> x).toOption = x.toOption.map f := by
  cases x <;> rfl

theorem toOption_mapError (f : ε → ε') (x : Except ε α) : (x.mapError f).toOption = x.toOption := by
  cases x <;> rfl

theorem toOption_lift (x : Except Mismatch α) : (liftM x : Except Fault α).toOption = x.toOption :=
  toOption_mapError _ x

theorem toOption_bind_congr {x y : Except ε α} {f g : α → Except ε β} (sense : α → σ)
    (same : x.toOption.map sense = y.toOption.map sense)
    (through : ∀ a b, sense a = sense b → (f a).toOption = (g b).toOption) :
    (x >>= f).toOption = (y >>= g).toOption := by
  rw [toOption_bind, toOption_bind]
  cases hx : x.toOption with
  | none =>
    cases hy : y.toOption with
    | none => rfl
    | some b => simp [hx, hy] at same
  | some a =>
    cases hy : y.toOption with
    | none => simp [hx, hy] at same
    | some b =>
      rw [hx, hy] at same
      exact through a b (Option.some.inj same)

theorem toOption_mapM_replace {f : α → Except ε β} {a b : α} (same : (f a).toOption = (f b).toOption)
    (before after : List α) :
    ((before ++ a :: after).mapM f).toOption = ((before ++ b :: after).mapM f).toOption := by
  simp only [List.mapM_append, List.mapM_cons, toOption_bind, same]

theorem foldlM_invariant {step : σ → α → Except ε σ} {l : List α} {s t : σ} {I : σ → Prop}
    (keep : ∀ s t, ∀ a ∈ l, step s a = .ok t → I s → I t) (run : l.foldlM step s = .ok t)
    (start : I s) : I t := by
  induction l generalizing s with
  | nil =>
    obtain rfl := pure_eq_ok_iff.1 run
    exact start
  | cons a rest ih =>
    obtain ⟨next, first, others⟩ := foldlM_cons_eq_ok_iff.1 run
    have kept : I next := keep s next a List.mem_cons_self first start
    exact ih (fun s t b hb => keep s t b (List.mem_cons_of_mem a hb)) others kept

end Outcome

namespace Traced

@[simp] theorem outcome_pure (a : α) : (pure a : Traced α).outcome = .ok a := rfl

@[simp] theorem outcome_lift (x : Except Fault α) : (liftM x : Traced α).outcome = x := rfl

@[simp] theorem outcome_lift_flaw (x : Except Identifier.Flaw α) :
    (liftM x : Traced α).outcome = (liftM x : Except Fault α) := rfl

@[simp] theorem outcome_fail (f : Fault) : (Traced.fail f : Traced α).outcome = .error f := rfl

@[simp] theorem outcome_bind (x : Traced α) (f : α → Traced β) :
    (x >>= f).outcome = x.outcome >>= fun a => (f a).outcome := by
  rcases x with ⟨events, fault | a⟩ <;> rfl

@[simp] theorem outcome_map (x : Traced α) (f : α → β) : (f <$> x).outcome = f <$> x.outcome := by
  rcases x with ⟨events, fault | a⟩ <;> rfl

theorem events_map (f : α → β) (x : Traced α) : (f <$> x).events = x.events := by
  rcases x with ⟨events, fault | a⟩
  · rfl
  · exact List.append_nil events

theorem lift_ok (a : α) :
    (liftM (liftM (.ok a : Except Mismatch α) : Except Fault α) : Traced α) = pure a :=
  rfl

theorem lift_map (x : Except Fault α) (f : α → β) :
    (liftM (f <$> x) : Traced β) = f <$> (liftM x : Traced α) := by
  cases x <;> rfl

theorem lift_flaw_map (x : Except Identifier.Flaw α) (f : α → β) :
    (liftM (f <$> x) : Traced β) = f <$> (liftM x : Traced α) := by
  cases x <;> rfl

theorem lift_bind (x : Except Fault α) (f : α → Except Fault β) :
    (liftM (x >>= f) : Traced β) = (liftM x : Traced α) >>= fun a => liftM (f a) := by
  cases x <;> rfl

@[simp] theorem outcome_foldlM (step : σ → α → Traced σ) (l : List α) (s : σ) :
    (l.foldlM step s).outcome = l.foldlM (fun s a => (step s a).outcome) s := by
  induction l generalizing s with
  | nil => rfl
  | cons a rest ih => simp [ih]

@[simp] theorem outcome_mapM (f : α → Traced β) (l : List α) :
    (l.mapM f).outcome = l.mapM fun a => (f a).outcome := by
  induction l with
  | nil => rfl
  | cons a rest ih => simp [ih]

end Traced

end BoundSelect
