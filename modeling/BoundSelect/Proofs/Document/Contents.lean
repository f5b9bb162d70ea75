import BoundSelect.Document.Record
import BoundSelect.Proofs.Outcome
import Mathlib.Data.List.Nodup
import Mathlib.Data.List.Pairwise

set_option autoImplicit false

namespace BoundSelect

namespace Document

open Outcome

variable {α σ : Type}

namespace Field

def put (f : Field α) (j : Json) (a : α) : Option α := (f.read j).toOption.map fun update => update a

theorem put_of_ok {f : Field α} {j : Json} {update : α → α} (read : f.read j = .ok update) :
    f.put j = some ∘ update := by
  funext a
  rw [put, read]
  rfl

theorem put_of_error {f : Field α} {j : Json} {mismatch : Mismatch} (read : f.read j = .error mismatch) :
    f.put j = fun _ => none := by
  funext a
  rw [put, read]
  rfl

def Commute (f g : Field α) : Prop :=
  ∀ j k update other a, f.read j = .ok update → g.read k = .ok other → update (other a) = other (update a)

-- The sense after a change of the field depends on nothing but the sense before it.
def Respects (f : Field α) (sense : α → σ) : Prop :=
  ∀ j update a b, f.read j = .ok update → sense a = sense b → sense (update a) = sense (update b)

instance : Std.Symm (Commute (α := α)) where
  symm _ _ h j k update other a read read' := (h k j other update a read' read).symm

theorem Commute.put {f g : Field α} (h : f.Commute g) (j k : Json) (a? : Option α) :
    (a?.bind (f.put j)).bind (g.put k) = (a?.bind (g.put k)).bind (f.put j) := by
  rcases a? with _ | a
  · rfl
  cases read : f.read j with
  | error => simp [put_of_error read]
  | ok update =>
    cases read' : g.read k with
    | error => simp [put_of_error read']
    | ok other => simp [put_of_ok read, put_of_ok read', h j k update other a read read']

end Field

abbrev Contents (α : Type) := List (Field α × Json)

namespace Contents

def names (contents : Contents α) : List String := contents.map fun content => content.1.name

def Fresh (contents : Contents α) (seen : List String) : Prop :=
  contents.names.Nodup ∧ ∀ name ∈ contents.names, name ∉ seen

instance (contents : Contents α) (seen : List String) : Decidable (contents.Fresh seen) :=
  inferInstanceAs (Decidable (_ ∧ _))

theorem fresh_cons {f : Field α} {j : Json} {rest : Contents α} {seen : List String} :
    Fresh ((f, j) :: rest) seen ↔ f.name ∉ seen ∧ Fresh rest (f.name :: seen) := by
  rw [Fresh, names, List.map_cons, List.nodup_cons, List.forall_mem_cons]
  simp only [Fresh, names, List.mem_cons, not_or]
  constructor
  · rintro ⟨⟨new, once⟩, unseen, others⟩
    exact ⟨unseen, once, fun name hn => ⟨fun same => new (same ▸ hn), others name hn⟩⟩
  · rintro ⟨unseen, once, others⟩
    exact ⟨⟨fun hn => (others f.name hn).1 rfl, once⟩, unseen, fun name hn => (others name hn).2⟩

def putAll (contents : Contents α) (a? : Option α) : Option α :=
  contents.foldl (fun a? content => a?.bind (content.1.put content.2)) a?

theorem putAll_cons (content : Field α × Json) (rest : Contents α) (a? : Option α) :
    putAll (content :: rest) a? = putAll rest (a?.bind (content.1.put content.2)) :=
  rfl

theorem putAll_append (before after : Contents α) (a? : Option α) :
    putAll (before ++ after) a? = putAll after (putAll before a?) :=
  List.foldl_append

theorem putAll_none (contents : Contents α) : putAll contents none = none := by
  induction contents with
  | nil => rfl
  | cons content rest ih => rw [putAll_cons, Option.bind_none, ih]

theorem putAll_perm {contents others : Contents α} (perm : contents.Perm others) (once : contents.names.Nodup)
    (commute : ∀ c ∈ contents, ∀ d ∈ contents, c.1.name ≠ d.1.name → c.1.Commute d.1) (a? : Option α) :
    putAll contents a? = putAll others a? := by
  refine perm.foldl_eq' (fun c hc d hd a? => ?_) a?
  by_cases same : c.1.name = d.1.name
  · rw [List.inj_on_of_nodup_map once hc hd same]
  · exact (commute c hc d hd same).put c.2 d.2 a?

theorem putAll_respects {contents : Contents α} {sense : α → σ} (respects : ∀ c ∈ contents, c.1.Respects sense)
    {a? b? : Option α} (same : a?.map sense = b?.map sense) :
    (putAll contents a?).map sense = (putAll contents b?).map sense := by
  induction contents generalizing a? b? with
  | nil => exact same
  | cons c rest ih =>
    rw [putAll_cons, putAll_cons]
    refine ih (fun d hd => respects d (List.mem_cons_of_mem c hd)) ?_
    rcases a? with _ | a <;> rcases b? with _ | b
    · rfl
    · cases same
    · cases same
    cases read : c.1.read c.2 with
    | error => simp [Field.put_of_error read]
    | ok update =>
      have first := respects c List.mem_cons_self c.2 update a b read (Option.some.inj same)
      simp [Field.put_of_ok read, first]

end Contents

open Contents

namespace Record

variable {r : Record α} {f g : Field α}

def content? (r : Record α) (entry : String × Json) : Option (Field α × Json) :=
  (r.field? entry.1).map fun f => (f, entry.2)

def contentsOf (r : Record α) (entries : List (String × Json)) : Contents α := entries.filterMap r.content?

def contents? (r : Record α) : Json → Option (Contents α)
  | .obj entries => some (r.contentsOf entries)
  | .arr items => if items.length ≤ r.fields.length then some (r.fields.zip items) else none
  | _ => none

structure Complete (r : Record α) (contents : Contents α) : Prop where
  once : contents.names.Nodup
  required : ∀ f ∈ r.fields, f.required → f.name ∈ contents.names

theorem complete_iff {contents : Contents α} :
    r.Complete contents ↔
      contents.names.Nodup ∧ ∀ f ∈ r.fields, f.required → f.name ∈ contents.names :=
  ⟨fun h => ⟨h.once, h.required⟩, fun h => ⟨h.1, h.2⟩⟩

instance (r : Record α) (contents : Contents α) : Decidable (r.Complete contents) :=
  decidable_of_iff' _ complete_iff

def assemble (r : Record α) (contents : Contents α) : Option α :=
  if r.Complete contents then putAll contents (some r.blank) else none

theorem contentsOf_cons (r : Record α) (entry : String × Json) (rest : List (String × Json)) :
    r.contentsOf (entry :: rest) =
      match r.content? entry with
      | none => r.contentsOf rest
      | some content => content :: r.contentsOf rest := by
  rw [contentsOf, List.filterMap_cons]
  cases r.content? entry <;> rfl

theorem field?_mem {key : String} (known : r.field? key = some f) : f ∈ r.fields :=
  List.mem_of_find?_eq_some known

theorem contentsOf_append (r : Record α) (before after : List (String × Json)) :
    r.contentsOf (before ++ after) = r.contentsOf before ++ r.contentsOf after :=
  List.filterMap_append

theorem contentsOf_around (before after : List (String × Json)) {key : String} {j : Json}
    (named : r.field? key = some f) :
    r.contentsOf (before ++ (key, j) :: after) = r.contentsOf before ++ (f, j) :: r.contentsOf after := by
  have content : r.content? (key, j) = some (f, j) := by
    rw [content?, named]
    rfl
  rw [contentsOf_append, contentsOf_cons, content]

theorem exists_of_mem_contentsOf {entries : List (String × Json)} {c : Field α × Json}
    (hc : c ∈ r.contentsOf entries) : ∃ entry ∈ entries, r.field? entry.1 = some c.1 := by
  obtain ⟨entry, there, found⟩ := List.mem_filterMap.1 hc
  obtain ⟨f, known, rfl⟩ := Option.map_eq_some_iff.1 found
  exact ⟨entry, there, known⟩

theorem own_contentsOf (r : Record α) (entries : List (String × Json)) :
    ∀ c ∈ r.contentsOf entries, c.1 ∈ r.fields := by
  intro c hc
  obtain ⟨entry, -, known⟩ := exists_of_mem_contentsOf hc
  exact field?_mem known

theorem contents?_own {body : Json} {contents : Contents α} (h : r.contents? body = some contents) :
    ∀ c ∈ contents, c.1 ∈ r.fields := by
  cases body with
  | obj entries =>
    obtain rfl := Option.some.inj h
    exact r.own_contentsOf entries
  | arr items =>
    obtain ⟨-, zipped⟩ := Option.ite_none_right_eq_some.1 h
    obtain rfl := Option.some.inj zipped
    exact fun c hc => (List.of_mem_zip hc).1
  | null | bool | num | str => cases h

theorem readEntry_toOption (r : Record α) (p : Progress α) (entry : String × Json) :
    (r.readEntry p entry).toOption =
      match r.content? entry with
      | none => some p
      | some (f, j) =>
          if f.name ∈ p.seen then none
          else (f.put j p.value).map fun value => ⟨value, f.name :: p.seen⟩ := by
  rw [readEntry, content?]
  cases r.field? entry.1 with
  | none => rfl
  | some f =>
    dsimp only [Option.map_some]
    split
    · rfl
    · cases read : f.read entry.2 with
      | error => rw [Field.put_of_error read]; rfl
      | ok update => rw [Field.put_of_ok read]; rfl

theorem readEntries_toOption (r : Record α) (entries : List (String × Json)) (p : Progress α) :
    (entries.foldlM r.readEntry p).toOption =
      if (r.contentsOf entries).Fresh p.seen then
        (putAll (r.contentsOf entries) (some p.value)).map fun value =>
          ⟨value, (r.contentsOf entries).names.reverse ++ p.seen⟩
      else none := by
  induction entries generalizing p with
  | nil => rfl
  | cons entry rest ih =>
    rw [List.foldlM_cons, toOption_bind, readEntry_toOption, contentsOf_cons]
    cases r.content? entry with
    | none => exact ih p
    | some content =>
      obtain ⟨f, j⟩ := content
      by_cases seen : f.name ∈ p.seen
      · simp [fresh_cons, seen]
      · simp only [fresh_cons, seen, if_false, not_false_eq_true, true_and, putAll_cons, Option.bind_some]
        cases f.put j p.value with
        | none => simp [putAll_none]
        | some value => simp [ih, names]

theorem readItems_toOption (fields : List (Field α)) (items : List Json) (a : α) :
    (readItems fields items a).toOption =
      (putAll (fields.zip items) (some a)).map fun value =>
        (value, fields.drop items.length, items.drop fields.length) := by
  induction fields generalizing items a with
  | nil => cases items <;> rfl
  | cons f fields ih =>
    cases items with
    | nil => rfl
    | cons item items =>
      rw [readItems, toOption_bind, List.zip_cons_cons, putAll_cons, Option.bind_some]
      cases read : f.read item with
      | error => rw [Field.put_of_error read, putAll_none]; rfl
      | ok update =>
        rw [Field.put_of_ok read]
        exact ih items (update a)

theorem readObject_toOption (r : Record α) (entries : List (String × Json)) :
    (r.readObject entries).toOption = r.assemble (r.contentsOf entries) := by
  rw [readObject, toOption_bind, readEntries_toOption, assemble]
  generalize r.contentsOf entries = contents
  have fresh : contents.Fresh [] ↔ contents.names.Nodup := by simp [Fresh]
  by_cases once : contents.names.Nodup
  · rw [if_pos (fresh.2 once)]
    cases putAll contents (some r.blank) with
    | none => simp
    | some value =>
      have given : (r.fields.find? fun f => f.required && !(contents.names.reverse ++ []).contains f.name) = none ↔
          r.Complete contents := by
        simp [complete_iff, once]
      rw [Option.map_some, Option.bind_some]
      split
      next f missing =>
        rw [if_neg fun complete => Option.some_ne_none f (missing.symm.trans (given.2 complete))]
        rfl
      next nothing =>
        rw [if_pos (given.1 nothing)]
        rfl
  · have incomplete : ¬r.Complete contents := fun complete => once complete.once
    rw [if_neg (mt fresh.1 once), if_neg incomplete, Option.bind_none]

theorem names_zip {fields : List (Field α)} {items : List Json} (fits : items.length ≤ fields.length) :
    Contents.names (fields.zip items) = (fields.take items.length).map Field.name := by
  have firsts : (fields.zip items).map Prod.fst = fields.take items.length := by
    rw [List.zip_eq_zip_take_min, Nat.min_eq_right fits, List.map_fst_zip (by simp [fits])]
  rw [← firsts, List.map_map]
  rfl

theorem zip_around {fields : List (Field α)} {before : List Json} (place : fields[before.length]? = some f) (j : Json)
    (after : List Json) :
    fields.zip (before ++ j :: after) =
      fields.zip before ++ (f, j) :: (fields.drop (before.length + 1)).zip after := by
  induction before generalizing fields with
  | nil =>
    cases fields with
    | nil => cases place
    | cons g fields =>
      obtain rfl := Option.some.inj place
      rfl
  | cons item before ih =>
    cases fields with
    | nil => cases place
    | cons g fields => simp [ih place]

theorem contents?_around {before : List Json}
    (place : r.fields[before.length]? = some f) (j : Json) (after : List Json) :
    r.contents? (.arr (before ++ j :: after)) =
      if before.length + (after.length + 1) ≤ r.fields.length then
        some (r.fields.zip before ++ (f, j) :: (r.fields.drop (before.length + 1)).zip after)
      else none := by
  rw [contents?, zip_around place, List.length_append, List.length_cons]

theorem eq_of_name (distinct : (r.fields.map Field.name).Nodup) (hf : f ∈ r.fields)
    (hg : g ∈ r.fields) (same : f.name = g.name) : f = g :=
  List.inj_on_of_nodup_map distinct hf hg same

theorem name_notMem_contentsOf (distinct : (r.fields.map Field.name).Nodup)
    (hf : f ∈ r.fields) {entries : List (String × Json)} (others : ∀ entry ∈ entries, f.isNamed entry.1 = false) :
    f.name ∉ (r.contentsOf entries).names := by
  intro there
  obtain ⟨c, hc, name⟩ := List.mem_map.1 there
  obtain ⟨entry, he, known⟩ := exists_of_mem_contentsOf hc
  rw [eq_of_name distinct (r.own_contentsOf entries c hc) hf name] at known
  have named : f.isNamed entry.1 := List.find?_some (p := fun f : Field α => f.isNamed entry.1) known
  rw [others entry he] at named
  cases named

theorem name_notMem_zip (distinct : (r.fields.map Field.name).Nodup) {place : Nat}
    (there : r.fields[place]? = some f) {items : List Json} (short : items.length ≤ place) :
    f.name ∉ Contents.names (r.fields.zip items) := by
  obtain ⟨inside, rfl⟩ := List.getElem?_eq_some_iff.1 there
  have later : r.fields[place] ∈ r.fields.drop items.length :=
    List.mem_drop_iff_getElem.2 ⟨place - items.length, by omega, by simp [Nat.add_sub_of_le short]⟩
  rw [← List.take_append_drop items.length r.fields, List.map_append, List.nodup_append] at distinct
  rw [names_zip (Nat.le_of_lt (Nat.lt_of_le_of_lt short inside))]
  exact fun early => distinct.2.2 _ early _ (List.mem_map_of_mem later) rfl

theorem complete_zip (distinct : (r.fields.map Field.name).Nodup) {items : List Json}
    (fits : items.length ≤ r.fields.length) :
    r.Complete (r.fields.zip items) ↔ (r.fields.drop items.length).any Field.required = false := by
  have parts : r.fields = r.fields.take items.length ++ r.fields.drop items.length :=
    (List.take_append_drop items.length r.fields).symm
  rw [parts, List.map_append, List.nodup_append] at distinct
  obtain ⟨once, -, apart⟩ := distinct
  rw [complete_iff, names_zip fits, List.any_eq_false]
  constructor
  · rintro ⟨-, required⟩ f hf needed
    have there := required f (List.mem_of_mem_drop hf) needed
    exact apart f.name there f.name (List.mem_map_of_mem hf) rfl
  · intro optional
    refine ⟨once, fun f hf needed => ?_⟩
    rw [parts, List.mem_append] at hf
    exact hf.elim List.mem_map_of_mem fun hf => absurd needed (optional f hf)

theorem readArray_toOption (distinct : (r.fields.map Field.name).Nodup) (items : List Json) :
    (r.readArray items).toOption = (r.contents? (.arr items)).bind r.assemble := by
  rw [readArray, toOption_bind, readItems_toOption, contents?]
  by_cases fits : items.length ≤ r.fields.length
  · rw [if_pos fits, Option.bind_some, assemble, List.drop_eq_nil_of_le fits]
    cases putAll (r.fields.zip items) (some r.blank) with
    | none => rw [Option.map_none, Option.bind_none, ite_self]
    | some value =>
      have complete := complete_zip distinct fits
      rw [Option.map_some, Option.bind_some]
      dsimp only
      cases missing : (r.fields.drop items.length).any Field.required with
      | false =>
        rw [if_pos (complete.2 missing)]
        rfl
      | true =>
        rw [if_neg fun h => Bool.noConfusion (missing.symm.trans (complete.1 h))]
        rfl
  · have more : (items.drop r.fields.length).isEmpty = false := by
      simpa using fits
    rw [if_neg fits, Option.bind_none, List.drop_eq_nil_of_le (Nat.le_of_not_le fits)]
    cases putAll (r.fields.zip items) (some r.blank) with
    | none => rfl
    | some value =>
      rw [Option.map_some, Option.bind_some]
      dsimp only
      rw [more]
      rfl

theorem read_toOption (distinct : (r.fields.map Field.name).Nodup) (body : Json) :
    (r.read body).toOption = (r.contents? body).bind r.assemble := by
  cases body with
  | obj entries => exact r.readObject_toOption entries
  | arr items => exact readArray_toOption distinct items
  | null | bool | num | str => rfl

structure Lawful (r : Record α) (sense : α → σ) : Prop where
  distinct : (r.fields.map Field.name).Nodup
  commute : r.fields.Pairwise Field.Commute
  respects : ∀ f ∈ r.fields, f.Respects sense

namespace Lawful

variable {sense : α → σ} {contents others before after : Contents α} {j j' : Json}

theorem commute_of_ne (law : r.Lawful sense) (hf : f ∈ r.fields) (hg : g ∈ r.fields) (other : f.name ≠ g.name) :
    f.Commute g :=
  law.commute.forall hf hg fun same => other (congrArg Field.name same)

theorem complete_perm (perm : contents.Perm others) : r.Complete contents ↔ r.Complete others := by
  have names : contents.names.Perm others.names := perm.map _
  rw [complete_iff, complete_iff, names.nodup_iff]
  simp only [names.mem_iff]

theorem assemble_perm (law : r.Lawful sense) (own : ∀ c ∈ contents, c.1 ∈ r.fields) (perm : contents.Perm others) :
    r.assemble contents = r.assemble others := by
  have same := complete_perm (r := r) perm
  by_cases complete : r.Complete contents
  · rw [assemble, assemble, if_pos complete, if_pos (same.1 complete)]
    exact putAll_perm perm complete.once (fun c hc d hd => law.commute_of_ne (own c hc) (own d hd)) _
  · rw [assemble, assemble, if_neg complete, if_neg (mt same.2 complete)]

theorem assemble_idle (law : r.Lawful sense) (own : ∀ c ∈ (f, j) :: contents, c.1 ∈ r.fields)
    (optional : f.required = false) (new : f.name ∉ contents.names) {update : α → α} (read : f.read j = .ok update)
    (idle : sense (update r.blank) = sense r.blank) :
    (r.assemble ((f, j) :: contents)).map sense = (r.assemble contents).map sense := by
  have names : Contents.names ((f, j) :: contents) = f.name :: contents.names := rfl
  have same : r.Complete ((f, j) :: contents) ↔ r.Complete contents := by
    rw [complete_iff, complete_iff, names, List.nodup_cons]
    refine and_congr (and_iff_right new) (forall₃_congr fun g hg required => ?_)
    refine List.mem_cons.trans (or_iff_right fun name => ?_)
    rw [eq_of_name law.distinct hg (own (f, j) List.mem_cons_self) name, optional] at required
    cases required
  by_cases complete : r.Complete contents
  · rw [assemble, assemble, if_pos complete, if_pos (same.2 complete), putAll_cons, Option.bind_some,
      Field.put_of_ok read]
    -- The contents that are put after it cannot tell whether it is there.
    refine putAll_respects (fun c hc => law.respects c.1 (own c (List.mem_cons_of_mem _ hc))) ?_
    exact congrArg some idle
  · rw [assemble, assemble, if_neg complete, if_neg (mt same.1 complete)]

theorem assemble_replace (law : r.Lawful sense) (own : ∀ c ∈ after, c.1 ∈ r.fields)
    (alike : ∀ a, (f.put j a).map sense = (f.put j' a).map sense) :
    (r.assemble (before ++ (f, j) :: after)).map sense = (r.assemble (before ++ (f, j') :: after)).map sense := by
  have names : Contents.names (before ++ (f, j) :: after) = Contents.names (before ++ (f, j') :: after) := by
    simp [Contents.names]
  have same : r.Complete (before ++ (f, j) :: after) ↔ r.Complete (before ++ (f, j') :: after) := by
    rw [complete_iff, complete_iff, names]
  by_cases complete : r.Complete (before ++ (f, j) :: after)
  · rw [assemble, assemble, if_pos complete, if_pos (same.1 complete), putAll_append, putAll_append, putAll_cons,
      putAll_cons]
    refine putAll_respects (fun c hc => law.respects c.1 (own c hc)) ?_
    cases putAll before (some r.blank) with
    | none => rfl
    | some a => exact alike a
  · rw [assemble, assemble, if_neg complete, if_neg (mt same.2 complete)]

end Lawful

end Record

end Document

end BoundSelect
