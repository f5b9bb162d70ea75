import BoundSelect.Proofs.Document.Contents

set_option autoImplicit false

namespace BoundSelect

def Json.field? (name : String) (place : Nat) : Json → Option Json
  | .obj entries => entries.lookup name
  | .arr items => items[place]?
  | _ => none

namespace Document

open Outcome Contents

variable {α β : Type}

def Field.Sets (f : Field α) (part : α → β) (get : Json → β) : Prop :=
  ∀ j update a, f.read j = .ok update → part (update a) = get j

def Field.Keeps (f : Field α) (part : α → β) : Prop :=
  ∀ j update a, f.read j = .ok update → part (update a) = part a

theorem Field.keeps_of_set {γ : Type} {f : Field α} {part : α → β} {read : Json → Except Mismatch γ}
    {set : γ → α → α} (reads : ∀ j, f.read j = set <$> read j)
    (same : ∀ x a, part (set x a) = part a) : f.Keeps part := by
  intro j update a h
  obtain ⟨x, -, rfl⟩ := map_eq_ok_iff.1 ((reads j).symm.trans h)
  exact same x a

variable {r : Record α} {f : Field α} {before after : List (Field α)} {part : α → β} {get : Json → β}

namespace Contents

theorem putAll_cons_eq_some_iff {content : Field α × Json} {rest : Contents α} {a b : α} :
    putAll (content :: rest) (some a) = some b ↔
      ∃ update, content.1.read content.2 = .ok update ∧ putAll rest (some (update a)) = some b := by
  rw [putAll_cons, Option.bind_some]
  cases read : content.1.read content.2 with
  | error => simp [Field.put_of_error read, putAll_none]
  | ok update => simp [Field.put_of_ok read]

theorem putAll_keep {contents : Contents α} (keep : ∀ c ∈ contents, c.1.Keeps part) {a b : α}
    (put : putAll contents (some a) = some b) : part b = part a := by
  induction contents generalizing a with
  | nil => rw [Option.some.inj put]
  | cons c rest ih =>
    obtain ⟨update, read, later⟩ := putAll_cons_eq_some_iff.1 put
    rw [ih (fun d hd => keep d (List.mem_cons_of_mem c hd)) later]
    exact keep c List.mem_cons_self c.2 update a read

theorem putAll_sets (own : f.Sets part get) {first last : Contents α} (keep : ∀ c ∈ last, c.1.Keeps part) {j : Json}
    {a? : Option α} {b : α} (put : putAll (first ++ (f, j) :: last) a? = some b) : part b = get j := by
  rw [putAll_append] at put
  cases before : putAll first a? with
  | none =>
    rw [before, putAll_none] at put
    cases put
  | some a =>
    rw [before] at put
    obtain ⟨update, read, later⟩ := putAll_cons_eq_some_iff.1 put
    rw [putAll_keep keep later]
    exact own j update a read

end Contents

namespace Record

-- No other field goes by its name, and it alone makes up its part of the record.
structure Sole (r : Record α) (before : List (Field α)) (f : Field α) (after : List (Field α)) (part : α → β)
    (get : Json → β) : Prop where
  fields : r.fields = before ++ f :: after
  distinct : (r.fields.map Field.name).Nodup
  oneName : f.otherName = none
  sets : f.Sets part get
  keep : ∀ g ∈ before ++ after, g.Keeps part
  unnamed : ∀ g ∈ before ++ after, g.isNamed f.name = false

namespace Sole

theorem mem (sole : r.Sole before f after part get) : f ∈ r.fields := by
  rw [sole.fields]
  exact List.mem_append_right _ List.mem_cons_self

theorem place (sole : r.Sole before f after part get) : r.fields[before.length]? = some f := by
  rw [sole.fields, List.getElem?_append_right (Nat.le_refl _), Nat.sub_self, List.getElem?_cons_zero]

theorem field?_self (sole : r.Sole before f after part get) : r.field? f.name = some f := by
  have skipped : before.find? (·.isNamed f.name) = none := by
    apply List.find?_eq_none.2
    intro g hg
    simp [sole.unnamed g (List.mem_append_left _ hg)]
  have named : f.isNamed f.name := by simp [Field.isNamed]
  rw [field?, sole.fields, List.find?_append, skipped, Option.none_or, List.find?_cons, named]

theorem keeps_of_ne (sole : r.Sole before f after part get) {g : Field α} (hg : g ∈ r.fields)
    (other : g.name ≠ f.name) : g.Keeps part := by
  rw [sole.fields, List.mem_append, List.mem_cons] at hg
  rcases hg with hg | rfl | hg
  · exact sole.keep g (List.mem_append_left _ hg)
  · exact absurd rfl other
  · exact sole.keep g (List.mem_append_right _ hg)

theorem contents?_cases (sole : r.Sole before f after part get) {doc : Json} {contents : Contents α}
    (h : r.contents? doc = some contents) :
    (doc.field? f.name before.length = none ∧ f.name ∉ contents.names) ∨
      ∃ j first last, doc.field? f.name before.length = some j ∧ contents = first ++ (f, j) :: last := by
  cases doc with
  | obj entries =>
    obtain rfl := Option.some.inj h
    rw [Json.field?]
    cases found : entries.lookup f.name with
    | none =>
      refine .inl ⟨rfl, name_notMem_contentsOf sole.distinct sole.mem fun entry he => ?_⟩
      have other := List.lookup_eq_none_iff.1 found entry he
      simpa [Field.isNamed, sole.oneName] using other
    | some j =>
      obtain ⟨first, last, rfl, -⟩ := List.lookup_eq_some_iff.1 found
      exact .inr ⟨j, _, _, rfl, contentsOf_around first last sole.field?_self⟩
  | arr items =>
    obtain ⟨-, zipped⟩ := Option.ite_none_right_eq_some.1 h
    obtain rfl := Option.some.inj zipped
    rw [Json.field?]
    cases found : items[before.length]? with
    | none => exact .inl ⟨rfl, name_notMem_zip sole.distinct sole.place (List.getElem?_eq_none_iff.1 found)⟩
    | some j =>
      obtain ⟨inside, rfl⟩ := List.getElem?_eq_some_iff.1 found
      have parts : items.take before.length ++ items[before.length] :: items.drop (before.length + 1) = items := by
        rw [← List.drop_eq_getElem_cons inside, List.take_append_drop]
      have place : r.fields[(items.take before.length).length]? = some f := by
        rw [List.length_take_of_le (Nat.le_of_lt inside)]
        exact sole.place
      have split := zip_around place items[before.length] (items.drop (before.length + 1))
      rw [parts] at split
      exact .inr ⟨_, _, _, rfl, split⟩
  | null | bool | num | str => cases h

theorem read (sole : r.Sole before f after part get) {doc : Json} {a : α} (h : r.read doc = .ok a) :
    part a = ((doc.field? f.name before.length).map get).getD (part r.blank) := by
  have assembled := read_toOption sole.distinct doc
  rw [toOption_eq_some_iff.2 h] at assembled
  obtain ⟨contents, has, made⟩ := Option.bind_eq_some_iff.1 assembled.symm
  obtain ⟨complete, put⟩ := Option.ite_none_right_eq_some.1 made
  have own : ∀ c ∈ contents, c.1 ∈ r.fields := contents?_own has
  rcases sole.contents?_cases has with ⟨absent, new⟩ | ⟨j, first, last, there, rfl⟩
  · rw [absent]
    exact putAll_keep (fun c hc => sole.keeps_of_ne (own c hc) fun same => new (same ▸ List.mem_map_of_mem hc)) put
  · rw [there]
    have once := complete.once
    rw [Contents.names, List.map_append, List.map_cons] at once
    have new := (List.nodup_cons.1 (List.nodup_append.1 once).2.1).1
    refine putAll_sets sole.sets (fun c hc => ?_) put
    have there : c.1 ∈ r.fields := own c (List.mem_append_right _ (List.mem_cons_of_mem _ hc))
    exact sole.keeps_of_ne there fun same => new (same ▸ List.mem_map_of_mem hc)

end Sole

end Record

end Document

end BoundSelect
