import BoundSelect.Proofs.Document.Writing
import BoundSelect.Proofs.Outcome

set_option autoImplicit false

namespace BoundSelect

namespace Json

variable {entries : List (String × Json)} {fields : List (String × Option Json)}

theorem setField_of_notMem {name : String} (value : Json) (h : name ∉ entries.map Prod.fst) :
    setField name value entries = entries ++ [(name, value)] := by
  induction entries with
  | nil => rfl
  | cons entry rest ih =>
    rw [List.map_cons, List.mem_cons, not_or] at h
    have other : (entry.1 == name) = false := beq_eq_false_iff_ne.2 fun same => h.1 same.symm
    simp [setField, other, ih h.2]

theorem foldl_setField (done : List (String × Json))
    (distinct : ((done ++ entries).map Prod.fst).Nodup) :
    entries.foldl (fun fields entry => setField entry.1 entry.2 fields) done = done ++ entries := by
  induction entries generalizing done with
  | nil => simp
  | cons entry rest ih =>
    have fresh : entry.1 ∉ done.map Prod.fst := by
      rw [List.map_append] at distinct
      exact fun old => (List.nodup_append.1 distinct).2.2 _ old _ List.mem_cons_self rfl
    rw [List.append_cons] at distinct
    rw [List.foldl_cons, setField_of_notMem entry.2 fresh, ih _ distinct, ← List.append_cons]

theorem ofEntries_eq (distinct : (entries.map Prod.fst).Nodup) : ofEntries entries = .obj entries := by
  rw [ofEntries, foldl_setField [] distinct, List.nil_append]

theorem keys_present (fields : List (String × Option Json)) :
    (present fields).map Prod.fst |>.Sublist (fields.map Prod.fst) := by
  induction fields with
  | nil => exact .slnil
  | cons field rest ih =>
    rcases field with ⟨name, _ | value⟩
    · exact ih.cons name
    · exact ih.cons_cons name

theorem ofFields_eq (distinct : (fields.map Prod.fst).Nodup) : ofFields fields = .obj (present fields) :=
  ofEntries_eq (distinct.sublist (keys_present fields))

end Json

namespace Document

variable {α β : Type} {r : Record α} {f : Field α} {a b c : α} {name : String} {j : Json}
  {fields more : List (String × Option Json)}

theorem readEntry_of_field (found : r.field? name = some f) {seen : List String} (fresh : f.name ∉ seen)
    {update : α → α} (read : f.read j = .ok update) :
    r.readEntry ⟨a, seen⟩ (name, j) = .ok ⟨update a, f.name :: seen⟩ := by
  simp [Record.readEntry, found, fresh, read]

inductive Reads (r : Record α) : α → List (String × Option Json) → α → Prop
  | nil {a : α} : Reads r a [] a
  | absent {a b : α} {name : String} {fields : List (String × Option Json)} (later : Reads r a fields b) :
      Reads r a ((name, none) :: fields) b
  | present {a b : α} {f : Field α} {name : String} {j : Json} {fields : List (String × Option Json)}
      {update : α → α} (found : r.field? name = some f) (named : f.name = name)
      (read : f.read j = .ok update) (later : Reads r (update a) fields b) :
      Reads r a ((name, some j) :: fields) b

namespace Reads

theorem append (first : Reads r a fields b) (second : Reads r b more c) : Reads r a (fields ++ more) c := by
  induction first with
  | nil => exact second
  | absent later ih => exact .absent (ih second)
  | present found named read later ih => exact .present found named read (ih second)

theorem run (reads : Reads r a fields b) {seen : List String} (distinct : (fields.map Prod.fst).Nodup)
    (fresh : ∀ name ∈ fields.map Prod.fst, name ∉ seen) :
    (Json.present fields).foldlM r.readEntry ⟨a, seen⟩ =
      .ok ⟨b, ((Json.present fields).map Prod.fst).reverse ++ seen⟩ := by
  induction reads generalizing seen with
  | nil => rfl
  | absent later ih =>
    exact ih (List.nodup_cons.1 distinct).2 fun name hn => fresh name (List.mem_cons_of_mem _ hn)
  | @present a b f name j fields update found named read later ih =>
    subst named
    obtain ⟨new, distinct⟩ := List.nodup_cons.1 distinct
    have entry := readEntry_of_field (a := a) found (fresh f.name List.mem_cons_self) read
    -- The names that are left are new, so no field is taken for one that was read already.
    have unread : ∀ name ∈ fields.map Prod.fst, name ∉ f.name :: seen := by
      intro name hn
      rw [List.mem_cons, not_or]
      exact ⟨fun same => new (same ▸ hn), fresh name (List.mem_cons_of_mem _ hn)⟩
    have others := ih distinct unread
    have spelled : Json.present ((f.name, some j) :: fields) = (f.name, j) :: Json.present fields := rfl
    rw [spelled, Outcome.foldlM_cons_eq_ok_iff]
    refine ⟨_, entry, others.trans ?_⟩
    simp

theorem optional {write : β → Json} {x : Option β} (set : Option β → α → α)
    (found : r.field? name = some f) (named : f.name = name)
    (read : ∀ b, f.read (write b) = .ok (set (some b))) (unset : set none a = a)
    (later : Reads r (set x a) fields b) : Reads r a ((name, x.map write) :: fields) b := by
  cases x with
  | none =>
    rw [unset] at later
    exact .absent later
  | some x => exact .present found named (read x) later

theorem read_ofFields (reads : Reads r r.blank fields b) (distinct : (fields.map Prod.fst).Nodup)
    (complete : (r.fields.filter Field.required).map Field.name ⊆ (Json.present fields).map Prod.fst) :
    r.read (Json.ofFields fields) = .ok b := by
  have run := reads.run distinct fun name _ => List.not_mem_nil
  have there : ∀ f ∈ r.fields, f.required →
      f.name ∈ ((Json.present fields).map Prod.fst).reverse ++ [] := by
    intro f hf required
    rw [List.append_nil, List.mem_reverse]
    exact complete (List.mem_map_of_mem (List.mem_filter.2 ⟨hf, required⟩))
  generalize ((Json.present fields).map Prod.fst).reverse ++ [] = seen at run there
  have nothing : r.fields.find? (fun f => f.required && !seen.contains f.name) = none := by
    simpa using there
  rw [Json.ofFields_eq distinct, Record.read, Record.readObject, run]
  simp only [bind, Except.bind, nothing, pure, Except.pure]

end Reads

end Document

end BoundSelect
