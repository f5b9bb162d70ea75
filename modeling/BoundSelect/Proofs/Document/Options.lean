import BoundSelect.Document.Clause
import BoundSelect.Proofs.Reports

set_option autoImplicit false

namespace BoundSelect

namespace Traced

variable {α β : Type}

theorem events_mapM {f : α → Traced β} {l : List α}
    (quiet : ∀ a ∈ l, (f a).outcome.isOk = false → (f a).events = []) :
    (l.mapM f).events = (l.takeWhile fun a => (f a).outcome.isOk).flatMap fun a => (f a).events := by
  induction l with
  | nil => rfl
  | cons a rest ih =>
    have others := ih fun b hb => quiet b (List.mem_cons_of_mem a hb)
    rw [List.mapM_cons, List.takeWhile_cons]
    cases outcome : (f a).outcome with
    | error fault =>
      rw [events_bind_of_error outcome]
      exact quiet a List.mem_cons_self (by rw [outcome]; rfl)
    | ok b =>
      rw [events_bind_of_ok outcome, bind_pure_comp, events_map, others]
      rfl

end Traced

namespace Document

def isKnownTag (tag : String) : Bool := ["CONDITIONS", "JOIN", "UNION"].contains tag.toUpper

def singles : Json → List Json
  | .obj entries => entries.map fun entry => .obj [entry]
  | other => [other]

def ignored? : Json → Option String
  | .obj [(tag, _)] => if isKnownTag tag then none else some tag
  | _ => none

theorem readOptions_append (xs ys : List Json) :
    readOptions (xs ++ ys) = do
      let first ← readOptions xs
      let second ← readOptions ys
      return first ++ second := by
  simp only [readOptions, List.mapM_append, map_bind, bind_map_left, map_pure, List.flatten_append]

theorem readOptions_cons (x : Json) (rest : List Json) :
    readOptions (x :: rest) = do
      let first ← readOption x
      let others ← readOptions rest
      return first ++ others := by
  simp only [readOptions, List.mapM_cons, map_bind, bind_map_left, map_pure, List.flatten_cons]

theorem readOption_single (entry : String × Json) : readOption (.obj [entry]) = readEntry entry := by
  rw [readOption, List.mapM_cons, List.mapM_nil]
  simp

theorem readOptions_singles (x : Json) : readOptions (singles x) = readOption x := by
  cases x with
  | obj entries =>
    have each : readOption ∘ (fun entry => .obj [entry]) = readEntry := funext readOption_single
    rw [singles, readOptions, List.mapM_map, each]
    rfl
  | null | bool | num | str | arr => rfl

theorem readOptions_flatMap_singles (xs : List Json) : readOptions (xs.flatMap singles) = readOptions xs := by
  induction xs with
  | nil => rfl
  | cons x rest ih => rw [List.flatMap_cons, readOptions_append, readOptions_singles, ih, readOptions_cons]

theorem readEntry_of_unknown {entry : String × Json} (unknown : isKnownTag entry.1 = false) :
    readEntry entry = do
      Traced.report (.optionIgnored entry.1)
      return [] := by
  unfold readEntry
  split
  next tag => simp [isKnownTag, tag] at unknown
  next tag => simp [isKnownTag, tag] at unknown
  next tag => simp [isKnownTag, tag] at unknown
  next => rfl

theorem events_readEntry_of_known {entry : String × Json} (known : isKnownTag entry.1) :
    (readEntry entry).events = [] := by
  unfold readEntry
  split
  next => cases readConditions entry.2 <;> rfl
  next => cases readJoin entry.2 <;> rfl
  next => cases readUnion entry.2 <;> rfl
  next conditions join union =>
    have tag : entry.1.toUpper = "CONDITIONS" ∨ entry.1.toUpper = "JOIN" ∨ entry.1.toUpper = "UNION" := by
      simpa [isKnownTag] using known
    rcases tag with tag | tag | tag
    · exact (conditions tag).elim
    · exact (join tag).elim
    · exact (union tag).elim

theorem ignored?_single (entry : String × Json) :
    ignored? (.obj [entry]) = if isKnownTag entry.1 then none else some entry.1 :=
  rfl

theorem mem_singles {x single : Json} (h : single ∈ singles x) :
    (∃ entry, single = .obj [entry]) ∨ ∀ entries, single ≠ .obj entries := by
  cases x with
  | obj entries =>
    obtain ⟨entry, -, rfl⟩ := List.mem_map.1 h
    exact .inl ⟨entry, rfl⟩
  | null | bool | num | str | arr =>
    obtain rfl := List.mem_singleton.1 h
    exact .inr nofun

theorem readOption_of_mem_singles {x single : Json} (h : single ∈ singles x) :
    (readOption single).events = ((ignored? single).map Event.optionIgnored).toList ∧
      ((ignored? single).isSome → (readOption single).outcome = .ok []) := by
  rcases mem_singles h with ⟨entry, rfl⟩ | noObject
  · rw [readOption_single, ignored?_single]
    by_cases known : isKnownTag entry.1
    · rw [if_pos known]
      exact ⟨events_readEntry_of_known known, nofun⟩
    · rw [readEntry_of_unknown (Bool.eq_false_iff.2 known), if_neg known]
      exact ⟨rfl, fun _ => rfl⟩
  · cases single with
    | obj entries => exact absurd rfl (noObject entries)
    | null | bool | num | str | arr => exact ⟨rfl, nofun⟩

theorem outcome_readOptions_filter {xs : List Json}
    (skipped : ∀ x ∈ xs, (ignored? x).isSome → (readOption x).outcome = .ok []) :
    (readOptions (xs.filter fun x => (ignored? x).isNone)).outcome = (readOptions xs).outcome := by
  induction xs with
  | nil => rfl
  | cons x rest ih =>
    have others := ih fun y hy => skipped y (List.mem_cons_of_mem x hy)
    have first := skipped x List.mem_cons_self
    rw [readOptions_cons]
    cases ignored : ignored? x with
    | none =>
      rw [List.filter_cons_of_pos (by rw [ignored]; rfl), readOptions_cons]
      simp only [Traced.outcome_bind, others]
    | some tag =>
      have nothing : (readOption x).outcome = pure [] := first (by rw [ignored]; rfl)
      rw [List.filter_cons_of_neg (by simp [ignored]), others]
      simp [nothing]

theorem options_entrywise (xs ys : List Json) :
    (readOptions (xs ++ ys) = do
      let first ← readOptions xs
      let second ← readOptions ys
      return first ++ second) ∧
    (readOptions xs).outcome =
      (readOptions ((xs.flatMap singles).filter fun x => (ignored? x).isNone)).outcome ∧
    (readOptions xs).events =
      (((xs.flatMap singles).takeWhile fun x => (readOption x).outcome.isOk).filterMap ignored?).map
        .optionIgnored := by
  have each : ∀ x ∈ xs.flatMap singles,
      (readOption x).events = ((ignored? x).map Event.optionIgnored).toList ∧
        ((ignored? x).isSome → (readOption x).outcome = .ok []) := by
    intro x hx
    obtain ⟨option, -, there⟩ := List.mem_flatMap.1 hx
    exact readOption_of_mem_singles there
  have quiet : ∀ x ∈ xs.flatMap singles, (readOption x).outcome.isOk = false → (readOption x).events = [] := by
    intro x hx failed
    obtain ⟨reported, skipped⟩ := each x hx
    cases ignored : ignored? x with
    | none => rw [reported, ignored]; rfl
    | some tag => rw [skipped (by rw [ignored]; rfl)] at failed; cases failed
  refine ⟨readOptions_append xs ys, ?_, ?_⟩
  · rw [outcome_readOptions_filter fun x hx => (each x hx).2, readOptions_flatMap_singles]
  · rw [← readOptions_flatMap_singles, readOptions, Traced.events_map, Traced.events_mapM quiet, List.map_filterMap,
      List.filterMap_eq_flatMap_toList]
    exact List.flatMap_congr fun x hx => (each x (List.takeWhile_subset _ hx)).1

end Document

end BoundSelect
