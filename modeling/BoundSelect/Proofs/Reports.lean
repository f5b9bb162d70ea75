import BoundSelect.Proofs.Outcome

set_option autoImplicit false

namespace BoundSelect.Traced

variable {α β σ : Type}

theorem events_bind_of_ok {x : Traced α} {a : α} (h : x.outcome = .ok a) (f : α → Traced β) :
    (x >>= f).events = x.events ++ (f a).events := by
  rcases x with ⟨events, fault | b⟩
  · cases h
  · cases h
    rfl

theorem events_bind_of_error {x : Traced α} {fault : Fault} (h : x.outcome = .error fault) (f : α → Traced β) :
    (x >>= f).events = x.events := by
  rcases x with ⟨events, fault | b⟩
  · rfl
  · cases h

theorem outcome_bind_of_ok {x : Traced α} {a : α} (h : x.outcome = .ok a) (f : α → Traced β) :
    (x >>= f).outcome = (f a).outcome := by
  rw [outcome_bind, h]
  rfl

def thenReport (x : Traced α) (report : α → Traced Unit) : Traced α := do
  let a ← x
  report a
  return a

section

variable {x : Traced α} {report : α → Traced Unit}

theorem outcome_thenReport (told : ∀ a, (report a).outcome = .ok ()) :
    (x.thenReport report).outcome = x.outcome := by
  rw [thenReport, outcome_bind]
  cases x.outcome with
  | error fault => rfl
  | ok a => exact outcome_bind_of_ok (told a) fun _ => pure a

theorem events_thenReport_of_ok {a : α} (h : x.outcome = .ok a) (told : (report a).outcome = .ok ()) :
    (x.thenReport report).events = x.events ++ (report a).events := by
  rw [thenReport, events_bind_of_ok h, events_bind_of_ok told]
  exact congrArg (x.events ++ ·) (List.append_nil _)

theorem events_thenReport_of_error {fault : Fault} (h : x.outcome = .error fault) :
    (x.thenReport report).events = x.events :=
  events_bind_of_error h _

end

structure Reports (x : Traced α) (es : List Event) : Prop where
  whole : ∀ a, x.outcome = .ok a → x.events = es
  cut : ∀ f, x.outcome = .error f → x.events <+: es

namespace Reports

variable {x : Traced α} {es fs : List Event} {f : α → Traced β}

theorem of_quiet (quiet : x.events = []) : x.Reports [] where
  whole := fun _ _ => quiet
  cut := fun _ _ => quiet ▸ List.nil_prefix

theorem fail (fault : Fault) (es : List Event) : (Traced.fail fault : Traced α).Reports es where
  whole := nofun
  cut := fun _ _ => List.nil_prefix

theorem bind (first : x.Reports es) (next : ∀ a, (f a).Reports fs) : (x >>= f).Reports (es ++ fs) := by
  cases outcome : x.outcome with
  | error fault =>
    constructor
    · intro b built
      rw [outcome_bind, outcome] at built
      cases built
    · intro g failed
      rw [events_bind_of_error outcome]
      exact (first.cut fault outcome).trans (List.prefix_append es fs)
  | ok a =>
    constructor
    · intro b built
      rw [outcome_bind_of_ok outcome] at built
      rw [events_bind_of_ok outcome, first.whole a outcome, (next a).whole b built]
    · intro g failed
      rw [outcome_bind_of_ok outcome] at failed
      rw [events_bind_of_ok outcome, first.whole a outcome]
      exact (List.prefix_append_right_inj es).2 ((next a).cut g failed)

theorem quiet_bind (quiet : x.events = []) (next : ∀ a, (f a).Reports fs) : (x >>= f).Reports fs :=
  (of_quiet quiet).bind next

theorem bind_quiet (first : x.Reports es) (quiet : ∀ a, (f a).events = []) : (x >>= f).Reports es := by
  have reports := first.bind fun a => of_quiet (quiet a)
  rwa [List.append_nil] at reports

theorem foldlM {step : σ → α → Traced σ} {items : α → List Event} (each : ∀ s a, (step s a).Reports (items a))
    (l : List α) (s : σ) : (l.foldlM step s).Reports (l.flatMap items) := by
  induction l generalizing s with
  | nil => exact of_quiet rfl
  | cons a rest ih =>
    rw [List.foldlM_cons, List.flatMap_cons]
    exact (each s a).bind ih

end Reports

end BoundSelect.Traced
