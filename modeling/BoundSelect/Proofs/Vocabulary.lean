import BoundSelect.Clause
import BoundSelect.Proofs.Text.Words
import Mathlib.Data.List.Nodup

set_option autoImplicit false

namespace BoundSelect

open Text

structure Vocabulary {α : Type} (spelling : α → String) (keywords : List α) : Prop where
  complete : ∀ a, a ∈ keywords
  distinct : (keywords.map spelling).Nodup
  filled : ∀ a ∈ keywords, ∀ word ∈ (spelling a).toList.splitOn ' ', word ≠ []
  sober : ∀ a ∈ keywords, ∀ word ∈ (spelling a).toList.splitOn ' ', word.all fun c => !isBlank c && !c.isLower

namespace Text

theorem worded_intercalate {ws : List (List Char)} (filled : ∀ word ∈ ws, word ≠ [])
    (dark : ∀ word ∈ ws, ∀ c ∈ word, isBlank c = false) : Worded ([' '].intercalate ws) ws := by
  induction ws with
  | nil => exact .nil
  | cons word later ih =>
    rw [List.forall_mem_cons] at filled dark
    have others := ih filled.2 dark.2
    cases later with
    | nil =>
      have alone : Worded (word ++ []) [word] := .word filled.1 dark.1 nofun .nil
      rw [List.append_nil] at alone
      rw [List.intercalate_singleton]
      exact alone
    | cons next later =>
      have space : isBlank ' ' := by decide
      have ends : ∀ c ∈ (' ' :: [' '].intercalate (next :: later)).head?, isBlank c := by
        rintro c ⟨⟩
        exact space
      rw [List.intercalate_cons_cons, List.append_assoc]
      exact .word filled.1 dark.1 ends (.blank space others)

end Text

namespace Vocabulary

variable {α : Type} {spelling : α → String} {keywords : List α} (vocabulary : Vocabulary spelling keywords)
include vocabulary

theorem sober_of_mem {a : α} {word : List Char} (hw : word ∈ (spelling a).toList.splitOn ' ') {c : Char}
    (hc : c ∈ word) : isBlank c = false ∧ c.isLower = false := by
  have sober := List.all_eq_true.1 (vocabulary.sober a (vocabulary.complete a) word hw) c hc
  simpa using sober

theorem runs_spelling (a : α) : runs (spelling a).toList = (spelling a).toList.splitOn ' ' := by
  have worded := worded_intercalate (vocabulary.filled a (vocabulary.complete a))
    fun word hw c hc => (vocabulary.sober_of_mem hw hc).1
  rw [List.intercalate_splitOn] at worded
  exact worded_iff.1 worded

theorem spells_iff {s : String} (a : α) : Spells s (spelling a) ↔ foldedWords (spelling a) = foldedWords s := by
  rw [Text.spells_iff, ← vocabulary.runs_spelling, ← foldedWords_eq_iff, eq_comm]

theorem map_toUpper_splitOn (a : α) :
    ((spelling a).toList.splitOn ' ').map (List.map Char.toUpper) = (spelling a).toList.splitOn ' ' := by
  have upper : ∀ word ∈ (spelling a).toList.splitOn ' ', word.map Char.toUpper = word := by
    intro word hw
    have letters : ∀ c ∈ word, c.toUpper = c := fun c hc =>
      toUpper_of_isLower_eq_false (vocabulary.sober_of_mem hw hc).2
    exact (List.map_congr_left letters).trans (List.map_id' word)
  exact (List.map_congr_left upper).trans (List.map_id' _)

theorem unique {s : String} {a b : α} (spelled : Spells s (spelling a)) (spelledOther : Spells s (spelling b)) :
    a = b := by
  have folded := sameWords_iff.1 (Text.spells_iff.1 spelled)
  have foldedOther := sameWords_iff.1 (Text.spells_iff.1 spelledOther)
  rw [vocabulary.map_toUpper_splitOn] at folded foldedOther
  have words : (spelling a).toList.splitOn ' ' = (spelling b).toList.splitOn ' ' := folded.symm.trans foldedOther
  have joined := congrArg [' '].intercalate words
  rw [List.intercalate_splitOn, List.intercalate_splitOn] at joined
  apply List.inj_on_of_nodup_map vocabulary.distinct (vocabulary.complete a) (vocabulary.complete b)
  exact String.toList_inj.1 joined

theorem spells_of_findKeyword {s : String} {a : α} (found : findKeyword spelling keywords s = some a) :
    Spells s (spelling a) := by
  have test := List.find?_some found
  exact (vocabulary.spells_iff a).2 (beq_iff_eq.1 test)

theorem findKeyword_eq_some_iff {s : String} {a : α} :
    findKeyword spelling keywords s = some a ↔ Spells s (spelling a) := by
  constructor
  · exact vocabulary.spells_of_findKeyword
  · intro spelled
    cases found : findKeyword spelling keywords s with
    | none =>
      have test := List.find?_eq_none.1 found a (vocabulary.complete a)
      exact absurd (beq_iff_eq.2 ((vocabulary.spells_iff a).1 spelled)) test
    | some b => rw [vocabulary.unique (vocabulary.spells_of_findKeyword found) spelled]

theorem findKeyword_spelling (a : α) : findKeyword spelling keywords (spelling a) = some a :=
  vocabulary.findKeyword_eq_some_iff.2 ((vocabulary.spells_iff a).2 rfl)

theorem findKeyword_eq_none_iff {s : String} :
    findKeyword spelling keywords s = none ↔ ∀ a, ¬Spells s (spelling a) := by
  simp only [Option.eq_none_iff_forall_ne_some, ne_eq, vocabulary.findKeyword_eq_some_iff]

end Vocabulary

theorem Operator.vocabulary : Vocabulary Operator.text Operator.all where
  complete := Operator.mem_all
  distinct := by decide
  filled := by decide
  sober := by decide

theorem Side.vocabulary : Vocabulary Side.text Side.all where
  complete := Side.mem_all
  distinct := by decide
  filled := by decide
  sober := by decide

namespace Operator

theorem parse_eq_ok_iff {token : String} {o : Operator} : parse token = .ok o ↔ Spells token o.text := by
  rw [← vocabulary.findKeyword_eq_some_iff]
  change parse token = .ok o ↔ parse? token = some o
  unfold parse
  cases parse? token <;> simp

theorem parse_eq_error_iff {token : String} {fault : Fault} :
    parse token = .error fault ↔ fault = .operator token ∧ ∀ o : Operator, ¬Spells token o.text := by
  rw [← vocabulary.findKeyword_eq_none_iff]
  change parse token = .error fault ↔ fault = .operator token ∧ parse? token = none
  unfold parse
  cases parse? token <;> simp [eq_comm]

end Operator

namespace SideChoice

theorem ofName_eq_known_iff {name : String} {side : Side} : ofName name = .known side ↔ Spells name side.text := by
  rw [← Side.vocabulary.findKeyword_eq_some_iff]
  change ofName name = .known side ↔ Side.parse? name = some side
  unfold ofName
  cases Side.parse? name <;> simp

theorem ofName_eq_unrecognized_iff {name kept : String} :
    ofName name = .unrecognized kept ↔ kept = name ∧ ∀ side : Side, ¬Spells name side.text := by
  rw [← Side.vocabulary.findKeyword_eq_none_iff]
  change ofName name = .unrecognized kept ↔ kept = name ∧ Side.parse? name = none
  unfold ofName
  cases Side.parse? name <;> simp [eq_comm]

end SideChoice

theorem keywords_by_words (s : String) :
    ((∀ o : Operator, Operator.parse s = .ok o ↔ Spells s o.text) ∧
      (∀ fault, Operator.parse s = .error fault ↔ fault = .operator s ∧ ∀ o : Operator, ¬Spells s o.text)) ∧
    ((∀ side : Side, Side.parse? s = some side ↔ Spells s side.text) ∧
      (Side.parse? s = none ↔ ∀ side : Side, ¬Spells s side.text)) ∧
    ((∀ side : Side, SideChoice.ofName s = .known side ↔ Spells s side.text) ∧
      (∀ name, SideChoice.ofName s = .unrecognized name ↔ name = s ∧ ∀ side : Side, ¬Spells s side.text)) ∧
    (∀ t, Alike s t →
      Operator.parse t = (Operator.parse s).mapError (fun _ => .operator t) ∧ Side.parse? t = Side.parse? s) ∧
    (∀ o o' : Operator, Spells s o.text → Spells s o'.text → o = o') ∧
    (∀ side side' : Side, Spells s side.text → Spells s side'.text → side = side') := by
  refine ⟨⟨fun _ => Operator.parse_eq_ok_iff, fun _ => Operator.parse_eq_error_iff⟩,
    ⟨fun _ => Side.vocabulary.findKeyword_eq_some_iff, Side.vocabulary.findKeyword_eq_none_iff⟩,
    ⟨fun _ => SideChoice.ofName_eq_known_iff, fun _ => SideChoice.ofName_eq_unrecognized_iff⟩,
    ?_, fun _ _ => Operator.vocabulary.unique, fun _ _ => Side.vocabulary.unique⟩
  intro t alike
  have same := (alike_iff.1 alike).symm
  have operators : Operator.parse? t = Operator.parse? s := findKeyword_congr Operator.text Operator.all same
  constructor
  · unfold Operator.parse
    rw [operators]
    cases Operator.parse? s <;> rfl
  · exact findKeyword_congr Side.text Side.all same

theorem keywords_by_words_spaced :
    (Alike "Is nOT NULL" "\u2003is\u3000NOT\tnUlL\n" ∧ Spells "Is nOT NULL" Operator.isNotNull.text ∧
        Spells "full\u00A0 OUTER" Side.fullOuter.text) ∧
      Operator.parse "\u2003is\u3000NOT\tnUlL\n" = .ok .isNotNull ∧
      (∀ o : Operator, Spells "Is nOT NULL" o.text → .isNotNull = o) ∧
      (∀ side : Side, Spells "full\u00A0 OUTER" side.text → .fullOuter = side) := by
  have alike : Alike "Is nOT NULL" "\u2003is\u3000NOT\tnUlL\n" := by decide +kernel
  have spelled : Spells "Is nOT NULL" Operator.isNotNull.text := by decide +kernel
  have spelledSide : Spells "full\u00A0 OUTER" Side.fullOuter.text := by decide +kernel
  obtain ⟨⟨operators, -⟩, -, -, respelled, alone, -⟩ := keywords_by_words "Is nOT NULL"
  obtain ⟨-, -, -, -, -, aloneSide⟩ := keywords_by_words "full\u00A0 OUTER"
  obtain ⟨same, -⟩ := respelled _ alike
  rw [(operators .isNotNull).2 spelled] at same
  exact ⟨⟨alike, spelled, spelledSide⟩, same, fun o => alone .isNotNull o spelled,
    fun side => aloneSide .fullOuter side spelledSide⟩

-- The letter without a dot is no `i`, in whatever case, and signs that are parted are two words.
example : ¬Spells "\u0131s null" Operator.isNull.text ∧ ¬Spells "< =" Operator.lessOrEqual.text := by
  decide +kernel

end BoundSelect
