import BoundSelect.Binds
import Std.Data.ExtTreeMap.Lemmas

set_option autoImplicit false

namespace BoundSelect.Binds

variable {slots : List Slot}

theorem mem_ofSlots {k : String} : k ∈ ofSlots slots ↔ k ∈ slots.map Slot.key := by
  simp [ofSlots, Std.ExtTreeMap.mem_ofList, Function.comp_def]

theorem pairwise_keys (distinct : (slots.map Slot.key).Nodup) :
    (slots.map fun s => (s.key, s.value)).Pairwise fun a b => ¬compare a.1 b.1 = .eq := by
  rw [List.nodup_iff_pairwise_ne, List.pairwise_map] at distinct
  rw [List.pairwise_map]
  exact distinct.imp fun different same => different (Std.LawfulEqCmp.eq_of_compare same)

theorem getElem_ofSlots_of_mem (distinct : (slots.map Slot.key).Nodup) {s : Slot} (hs : s ∈ slots) :
    (ofSlots slots)[s.key]? = some s.value := by
  have entry : (s.key, s.value) ∈ slots.map fun s => (s.key, s.value) :=
    List.mem_map.2 ⟨s, hs, rfl⟩
  exact Std.ExtTreeMap.getElem?_ofList_of_mem Std.ReflCmp.compare_self (pairwise_keys distinct) entry

theorem getElem_ofSlots_iff (distinct : (slots.map Slot.key).Nodup) {k : String} {v : Value} :
    (ofSlots slots)[k]? = some v ↔ ∃ s ∈ slots, s.key = k ∧ s.value = v := by
  constructor
  · intro found
    have bound : k ∈ ofSlots slots := Std.ExtTreeMap.mem_iff_isSome_getElem?.2 (by simp [found])
    obtain ⟨s, hs, rfl⟩ := List.mem_map.1 (mem_ofSlots.1 bound)
    have same := getElem_ofSlots_of_mem distinct hs
    exact ⟨s, hs, rfl, Option.some.inj (same.symm.trans found)⟩
  · rintro ⟨s, hs, rfl, rfl⟩
    exact getElem_ofSlots_of_mem distinct hs

theorem size_ofSlots (distinct : (slots.map Slot.key).Nodup) :
    (ofSlots slots).size = slots.length := by
  rw [ofSlots, Std.ExtTreeMap.size_ofList (pairwise_keys distinct), List.length_map]

def fields (b : Binds) : List (String × Json) := b.toList.map fun (key, value) => (key, value.toJson)

theorem toJson_eq (b : Binds) : b.toJson = .obj b.fields := rfl

theorem fields_ordered (b : Binds) : b.fields.Pairwise fun e f => compare e.1 f.1 = .lt :=
  List.pairwise_map.2 Std.ExtTreeMap.ordered_keys_toList

theorem mem_fields_iff {b : Binds} {key : String} {j : Json} :
    (key, j) ∈ b.fields ↔ ∃ v, b[key]? = some v ∧ v.toJson = j := by
  simp only [fields, List.mem_map, Prod.exists, Std.ExtTreeMap.mem_toList_iff_getElem?_eq_some, Prod.mk.injEq]
  constructor
  · rintro ⟨_, v, found, rfl, same⟩
    exact ⟨v, found, same⟩
  · rintro ⟨v, found, same⟩
    exact ⟨key, v, found, rfl, same⟩

end BoundSelect.Binds
