import BoundSelect.Proofs.Document.Contents

set_option autoImplicit false

namespace BoundSelect.Document

open Outcome Contents

variable {α σ : Type}

-- What may be changed about the fields of a record, by their names.
structure Leeway where
  nullable : List String := []
  blankable : List String := []
  inside : String → Json → Json → Prop := fun _ _ _ => False

inductive Leeway.Vacant (l : Leeway) (name : String) : Json → Prop
  | null (may : name ∈ l.nullable) : Vacant l name .null
  | blank {s : String} (may : name ∈ l.blankable) (blank : Text.isAllBlank s) : Vacant l name (.str s)

structure Record.Idle (r : Record α) (sense : α → σ) (f : Field α) (j : Json) : Prop where
  optional : f.required = false
  same : ∃ update, f.read j = .ok update ∧ sense (update r.blank) = sense r.blank

structure Leeway.Safe (l : Leeway) (r : Record α) (sense : α → σ) : Prop where
  null : ∀ f ∈ r.fields, f.name ∈ l.nullable → r.Idle sense f .null
  blank : ∀ f ∈ r.fields, f.name ∈ l.blankable → ∀ s, Text.isAllBlank s → r.Idle sense f (.str s)
  inside : ∀ f ∈ r.fields, ∀ j j', l.inside f.name j j' → ∀ a, (f.put j a).map sense = (f.put j' a).map sense

theorem Leeway.Safe.idle {l : Leeway} {r : Record α} {sense : α → σ} (safe : l.Safe r sense) {f : Field α}
    (hf : f ∈ r.fields) {j : Json} (vacant : l.Vacant f.name j) : r.Idle sense f j := by
  cases vacant with
  | null may => exact safe.null f hf may
  | blank may blank => exact safe.blank f hf may _ blank

namespace Record

variable {r : Record α} {l : Leeway} {sense : α → σ} {f : Field α} {body body' : Json}

-- The items of an array have their places for names.
inductive Rewritten (r : Record α) (l : Leeway) : Json → Json → Prop
  | permuted {entries entries' : List (String × Json)} (perm : entries.Perm entries') :
      Rewritten r l (.obj entries) (.obj entries')
  | unnamed (before after : List (String × Json)) {key : String} (j : Json) (unknown : r.field? key = none) :
      Rewritten r l (.obj (before ++ (key, j) :: after)) (.obj (before ++ after))
  | renamed (before after : List (String × Json)) {key key' : String} (j : Json) (same : r.field? key = r.field? key') :
      Rewritten r l (.obj (before ++ (key, j) :: after)) (.obj (before ++ (key', j) :: after))
  -- With the field elsewhere the one would have it twice, and the other once.
  | absent (before after : List (String × Json)) {key : String} {j : Json} {f : Field α} (named : r.field? key = some f)
      (once : ∀ entry ∈ before ++ after, f.isNamed entry.1 = false) (vacant : l.Vacant f.name j) :
      Rewritten r l (.obj (before ++ (key, j) :: after)) (.obj (before ++ after))
  | inside (before after : List (String × Json)) {key : String} {j j' : Json} {f : Field α}
      (named : r.field? key = some f) (change : l.inside f.name j j') :
      Rewritten r l (.obj (before ++ (key, j) :: after)) (.obj (before ++ (key, j') :: after))
  | item (before after : List Json) {j j' : Json} {f : Field α} (place : r.fields[before.length]? = some f)
      (change : l.inside f.name j j') : Rewritten r l (.arr (before ++ j :: after)) (.arr (before ++ j' :: after))
  | last (before : List Json) {j : Json} {f : Field α} (place : r.fields[before.length]? = some f)
      (vacant : l.Vacant f.name j) : Rewritten r l (.arr (before ++ [j])) (.arr before)

theorem Rewritten.ne_null (step : r.Rewritten l body body') : body ≠ .null ∧ body' ≠ .null := by
  cases step <;> exact ⟨nofun, nofun⟩

theorem contentsOf_unnamed (before after : List (String × Json)) {key : String} {j : Json}
    (unknown : r.field? key = none) : r.contentsOf (before ++ (key, j) :: after) = r.contentsOf (before ++ after) := by
  have nothing : r.content? (key, j) = none := by
    rw [content?, unknown]
    rfl
  rw [contentsOf_append, contentsOf_append, contentsOf_cons, nothing]

theorem contentsOf_renamed (before after : List (String × Json)) {key key' : String} {j : Json}
    (same : r.field? key = r.field? key') :
    r.contentsOf (before ++ (key, j) :: after) = r.contentsOf (before ++ (key', j) :: after) := by
  have content : r.content? (key, j) = r.content? (key', j) := by rw [content?, content?, same]
  rw [contentsOf_append, contentsOf_append, contentsOf_cons, contentsOf_cons, content]

namespace Lawful

theorem assemble_vacant (law : r.Lawful sense) (safe : l.Safe r sense) {before after : Contents α} {j : Json}
    (own : ∀ c ∈ before ++ (f, j) :: after, c.1 ∈ r.fields) (new : f.name ∉ (before ++ after).names)
    (vacant : l.Vacant f.name j) :
    (r.assemble (before ++ (f, j) :: after)).map sense = (r.assemble (before ++ after)).map sense := by
  have first : (before ++ (f, j) :: after).Perm ((f, j) :: (before ++ after)) := List.perm_middle
  have own' : ∀ c ∈ (f, j) :: (before ++ after), c.1 ∈ r.fields := fun c hc => own c (first.mem_iff.2 hc)
  obtain ⟨optional, update, read, same⟩ := safe.idle (own' _ List.mem_cons_self) vacant
  rw [law.assemble_perm own first]
  exact law.assemble_idle own' optional new read same

end Lawful

theorem Rewritten.sense_eq (step : r.Rewritten l body body') (law : r.Lawful sense) (safe : l.Safe r sense) :
    (r.read body).toOption.map sense = (r.read body').toOption.map sense := by
  rw [read_toOption law.distinct, read_toOption law.distinct]
  cases step with
  | permuted perm =>
    have perm' := perm.filterMap r.content?
    exact congrArg (Option.map sense) (law.assemble_perm (r.own_contentsOf _) perm')
  | unnamed before after j unknown => rw [contents?, contents?, contentsOf_unnamed before after unknown]
  | renamed before after j same => rw [contents?, contents?, contentsOf_renamed before after same]
  | @absent before after key j f named once vacant =>
    have own := r.own_contentsOf (before ++ (key, j) :: after)
    have new := name_notMem_contentsOf law.distinct (field?_mem named) once
    rw [contentsOf_append] at new
    rw [contentsOf_around before after named] at own
    rw [contents?, contents?, contentsOf_around before after named, contentsOf_append]
    exact law.assemble_vacant safe own new vacant
  | inside before after named change =>
    rw [contents?, contents?, contentsOf_around before after named, contentsOf_around before after named]
    exact law.assemble_replace (r.own_contentsOf after) (safe.inside _ (field?_mem named) _ _ change)
  | item before after place change =>
    rw [contents?_around place, contents?_around place]
    split
    · refine law.assemble_replace (fun c hc => ?_) (safe.inside _ (List.mem_of_getElem? place) _ _ change)
      exact List.mem_of_mem_drop (List.of_mem_zip hc).1
    · rfl
  | @last before j f place vacant =>
    obtain ⟨inside, -⟩ := List.getElem?_eq_some_iff.1 place
    have fits : before.length ≤ r.fields.length := Nat.le_of_lt inside
    have fits' : before.length + (([] : List Json).length + 1) ≤ r.fields.length := inside
    have own : ∀ c ∈ r.fields.zip before ++ [(f, j)], c.1 ∈ r.fields := by
      intro c hc
      rcases List.mem_append.1 hc with hc | hc
      · exact (List.of_mem_zip hc).1
      · rw [List.mem_singleton.1 hc]
        exact List.mem_of_getElem? place
    have new := name_notMem_zip law.distinct place (Nat.le_refl _)
    rw [← List.append_nil (r.fields.zip before)] at new
    rw [contents?_around place, contents?, if_pos fits, if_pos fits', List.zip_nil_right]
    refine (law.assemble_vacant safe own new vacant).trans ?_
    rw [List.append_nil]
    rfl

end Record

end BoundSelect.Document
