import BoundSelect.Proofs.Document.Forms
import BoundSelect.Proofs.Document.Predicates
import BoundSelect.Proofs.Document.Reading
import BoundSelect.Proofs.Document.Rewriting
import BoundSelect.Proofs.Text.Keyword
import Mathlib.Logic.Relation

set_option autoImplicit false

namespace BoundSelect

namespace Document

open Outcome

inductive PredicateRewritten : Json → Json → Prop
  | key (before after : List (String × Json)) {token token' : String} (operand : Json) {o : Operator}
      (names : Operator.parse? token = some o) (same : token.toUpper = token'.toUpper) :
      PredicateRewritten (.obj (before ++ (token, operand) :: after)) (.obj (before ++ (token', operand) :: after))
  | item (operands : List Json) {token token' : String} (same : token.toUpper = token'.toUpper) :
      PredicateRewritten (.arr (.str token :: operands)) (.arr (.str token' :: operands))

inductive ConditionsRewritten : Json → Json → Prop
  | predicate (before after : List (String × Json)) (column : String) {body body' : Json}
      (change : PredicateRewritten body body') :
      ConditionsRewritten (.obj (before ++ (column, body) :: after)) (.obj (before ++ (column, body') :: after))

-- A direction is a text of its own, which may be blank but not null; columns may be neither.
def orderByLeeway : Leeway where
  blankable := ["direction"]

def limitLeeway : Leeway where
  nullable := ["offset"]

def joinLeeway : Leeway where
  nullable := ["table", "alias", "side", "conditions"]
  blankable := ["alias", "side"]
  inside name body body' := name = "conditions" ∧ ConditionsRewritten body body'

-- A union without any entries would be none at all, but that is seen only where its body is an entry of an option.
def unionLeeway : Leeway where
  nullable := ["type", "table", "alias", "columns", "columns_alias"]
  blankable := ["type", "alias", "columns_alias"]

inductive EntryRewritten : String × Json → String × Json → Prop
  | tag {tag tag' : String} (body : Json) (same : tag.toUpper = tag'.toUpper) : EntryRewritten (tag, body) (tag', body)
  | conditions {tag : String} {body body' : Json} (named : tag.toUpper = "CONDITIONS")
      (change : ConditionsRewritten body body') : EntryRewritten (tag, body) (tag, body')
  | join {tag : String} {body body' : Json} (named : tag.toUpper = "JOIN")
      (change : joinRecord.Rewritten joinLeeway body body') : EntryRewritten (tag, body) (tag, body')
  | union {tag : String} {body body' : Json} (named : tag.toUpper = "UNION")
      (change : unionRecord.Rewritten unionLeeway body body') (notEmpty : body ≠ .obj [])
      (notEmpty' : body' ≠ .obj []) : EntryRewritten (tag, body) (tag, body')

inductive OptionRewritten : Json → Json → Prop
  | entry (before after : List (String × Json)) {entry entry' : String × Json} (change : EntryRewritten entry entry') :
      OptionRewritten (.obj (before ++ entry :: after)) (.obj (before ++ entry' :: after))

inductive OptionsRewritten : Json → Json → Prop
  | option (before after : List Json) {option option' : Json} (change : OptionRewritten option option') :
      OptionsRewritten (.arr (before ++ option :: after)) (.arr (before ++ option' :: after))

def statementLeeway : Leeway where
  nullable := ["table", "columns", "order_by", "limit", "recursion_name", "recursion_order_by", "recursion_limit"]
  inside name body body' :=
    match name with
    | "options" => OptionsRewritten body body'
    | "order_by" | "recursion_order_by" => orderByRecord.Rewritten orderByLeeway body body'
    | "limit" | "recursion_limit" => limitRecord.Rewritten limitLeeway body body'
    | _ => False

def Rewritten : Json → Json → Prop := statementRecord.Rewritten statementLeeway

theorem flag_around (before after : List (String × Json)) {token : String} (operand : Json)
    (other : token ≠ "process") : flag (before ++ (token, operand) :: after) = flag (before ++ after) := by
  simp [flag, List.lookup_append, List.lookup_cons, beq_eq_false_iff_ne.2 other.symm]

theorem unflagged_around (before after : List (String × Json)) {token : String} (operand : Json)
    (other : token ≠ "process") :
    unflagged (before ++ (token, operand) :: after) = unflagged before ++ (token, operand) :: unflagged after := by
  simp [unflagged, List.filter_append, other]

theorem toOption_parse {token token' : String} (same : Operator.parse? token = Operator.parse? token')
    (operand : Operand) : (Predicate.parse token operand).toOption = (Predicate.parse token' operand).toOption := by
  rw [parse_eq, parse_eq, same]
  cases Operator.parse? token' <;> rfl

theorem readPredicate_rewritten {body body' : Json} (step : PredicateRewritten body body') (column : String) :
    (readPredicate column body).toOption = (readPredicate column body').toOption := by
  cases step with
  | @key before after token token' operand o names same =>
    have names' : Operator.parse? token' = some o := (Operator.parse?_of_toUpper same).symm.trans names
    have other := Operator.ne_process_of_parse? names
    have other' := Operator.ne_process_of_parse? names'
    have flagged := flag_around before after operand other
    have flagged' := flag_around before after operand other'
    by_cases process : ∃ bound, flag (before ++ after) = .bool bound
    · obtain ⟨bound, process⟩ := process
      rw [readPredicate_of_flag (flagged.trans process), readPredicate_of_flag (flagged'.trans process),
        unflagged_around before after operand other, unflagged_around before after operand other']
      rcases unflagged before with _ | ⟨entry, entries⟩
      · cases unflagged after with
        | nil => simp only [List.nil_append, parse_eq, names, names']
        | cons => rfl
      · cases entries <;> rfl
    · have misshapen (entries : List (String × Json)) (same : flag entries = flag (before ++ after)) :
          readPredicate column (.obj entries) = .error (.misshape (.process column (flag (before ++ after)))) := by
        rw [← same] at process ⊢
        exact readPredicate_of_misshapen (.process fun bound h => process ⟨bound, h⟩)
      rw [misshapen _ flagged, misshapen _ flagged']
  | item operands same =>
    have parse (operand : Operand) := toOption_parse (Operator.parse?_of_toUpper same) operand
    rcases operands with _ | ⟨operand, _ | _⟩
    · exact parse .none
    · exact parse (readOperand operand)
    · rfl

theorem ConditionsRewritten.ne_null {body body' : Json} (step : ConditionsRewritten body body') :
    body ≠ .null ∧ body' ≠ .null := by
  cases step
  exact ⟨nofun, nofun⟩

theorem readConditions_rewritten {body body' : Json} (step : ConditionsRewritten body body') :
    (readConditions body).toOption = (readConditions body').toOption := by
  obtain ⟨before, after, column, change⟩ := step
  refine toOption_mapM_replace ?_ before after
  simp only [readCondition, bind_pure_comp, toOption_map, readPredicate_rewritten change column]

theorem orderByLeeway_safe : orderByLeeway.Safe orderByRecord OrderByForm.sense where
  null := nofun
  blank := by
    simp only [orderByRecord, List.forall_mem_cons, List.not_mem_nil, false_imp_iff, implies_true, and_true]
    refine ⟨fun may => absurd may (by decide), fun _ s blank => ⟨rfl, _, rfl, ?_⟩⟩
    have left : Direction.parse "" = .ok .ascending := Direction.parse_of_blank rfl
    simp [OrderByForm.sense, left, Direction.parse_of_blank blank]
  inside := nofun

theorem limitLeeway_safe : limitLeeway.Safe limitRecord (id : Limit → Limit) where
  null := by
    simp only [limitRecord, List.forall_mem_cons, List.not_mem_nil, false_imp_iff, implies_true, and_true]
    exact ⟨fun may => absurd may (by decide), fun _ => ⟨rfl, _, rfl, rfl⟩⟩
  blank := nofun
  inside := nofun

theorem joinLeeway_safe : joinLeeway.Safe joinRecord JoinForm.sense where
  null := by
    simp only [joinRecord, List.forall_mem_cons, List.not_mem_nil, false_imp_iff, implies_true, and_true]
    and_intros <;> exact fun _ => ⟨rfl, _, rfl, rfl⟩
  blank := by
    simp only [joinRecord, List.forall_mem_cons, List.not_mem_nil, false_imp_iff, implies_true, and_true]
    refine ⟨fun may => absurd may (by decide), fun _ s blank => ⟨rfl, _, rfl, ?_⟩, fun _ s blank => ⟨rfl, _, rfl, ?_⟩,
      fun may => absurd may (by decide)⟩
    all_goals
      simp only [JoinForm.sense, unlessBlank_of_blank blank]
      rfl
  inside := by
    simp only [joinRecord, List.forall_mem_cons, List.not_mem_nil, false_imp_iff, implies_true, and_true]
    refine ⟨fun _ _ h => absurd h.1 (by decide), fun _ _ h => absurd h.1 (by decide),
      fun _ _ h => absurd h.1 (by decide), ?_⟩
    rintro body body' ⟨-, change⟩
    have same := readConditions_rewritten change
    obtain ⟨notNull, notNull'⟩ := change.ne_null
    refine Field.put_congr (fun conditions => (readOn conditions).toOption) (fun _ => rfl) ?_ ?_
    · rw [readOptional_eq rfl notNull, readOptional_eq rfl notNull']
      exact congrArg some same
    · intro b c a same
      simp only [JoinForm.sense, same]

theorem unionLeeway_safe : unionLeeway.Safe unionRecord UnionForm.sense where
  null := by
    simp only [unionRecord, List.forall_mem_cons, List.not_mem_nil, false_imp_iff, implies_true, and_true]
    and_intros <;> exact fun _ => ⟨rfl, _, rfl, rfl⟩
  blank := by
    simp only [unionRecord, List.forall_mem_cons, List.not_mem_nil, false_imp_iff, implies_true, and_true]
    refine ⟨fun _ s blank => ⟨rfl, _, rfl, ?_⟩, fun may => absurd may (by decide), fun _ s blank => ⟨rfl, _, rfl, ?_⟩,
      fun may => absurd may (by decide), fun _ s blank => ⟨rfl, _, rfl, ?_⟩⟩
    all_goals
      simp only [UnionForm.sense, readKind, unlessBlank_of_blank blank]
      rfl
  inside := nofun

theorem outcome_readEntry_recased {tag tag' : String} (same : tag.toUpper = tag'.toUpper) (body : Json) :
    (readEntry (tag, body)).outcome = (readEntry (tag', body)).outcome := by
  simp only [readEntry, same]
  split <;> rfl

theorem readEntry_rewritten {entry entry' : String × Json} (step : EntryRewritten entry entry') :
    (readEntry entry).outcome.toOption = (readEntry entry').outcome.toOption := by
  cases step with
  | tag body same => rw [outcome_readEntry_recased same]
  | conditions named change =>
    simp only [readEntry, named, bind_pure_comp, Traced.outcome_map, Traced.outcome_lift, toOption_map,
      readConditions_rewritten change]
  | join named change =>
    have same := readJoin_congr (change.sense_eq joinRecord_lawful joinLeeway_safe)
    simp only [readEntry, named, bind_pure_comp, Traced.outcome_map, Traced.outcome_lift, toOption_map, same]
  | union named change notEmpty notEmpty' =>
    have same := readUnion_congr (change.sense_eq unionRecord_lawful unionLeeway_safe) change.ne_null.1 change.ne_null.2
      notEmpty notEmpty'
    simp only [readEntry, named, bind_pure_comp, Traced.outcome_map, Traced.outcome_lift, toOption_map, same]

theorem readOption_rewritten {option option' : Json} (step : OptionRewritten option option') :
    (readOption option).outcome.toOption = (readOption option').outcome.toOption := by
  cases step with
  | entry before after change =>
    simp only [readOption, Traced.outcome_map, Traced.outcome_mapM, toOption_map]
    have items := toOption_mapM_replace (f := fun e => (readEntry e).outcome) (readEntry_rewritten change) before after
    rw [items]

theorem readOptions_rewritten (before after : List Json) {option option' : Json}
    (step : OptionRewritten option option') :
    (readOptions (before ++ option :: after)).outcome.toOption =
      (readOptions (before ++ option' :: after)).outcome.toOption := by
  simp only [readOptions, Traced.outcome_map, Traced.outcome_mapM, toOption_map]
  have items := toOption_mapM_replace (f := fun o => (readOption o).outcome) (readOption_rewritten step) before after
  rw [items]

theorem Record.Rewritten.readOptional {α σ : Type} {r : Record α} {l : Leeway} {sense : α → σ} {body body' : Json}
    (step : r.Rewritten l body body') (law : r.Lawful sense) (safe : l.Safe r sense) :
    (readOptional r.read body).toOption.map (Option.map sense) =
      (readOptional r.read body').toOption.map (Option.map sense) := by
  rw [readOptional_of_ne_null r.read step.ne_null.1, readOptional_of_ne_null r.read step.ne_null.2, toOption_map,
    toOption_map, Option.map_map, Option.map_map]
  have same := congrArg (Option.map some) (step.sense_eq law safe)
  rwa [Option.map_map, Option.map_map] at same

theorem statementLeeway_safe : statementLeeway.Safe statementRecord StatementForm.sense where
  null := by
    simp only [statementRecord, List.forall_mem_cons, List.not_mem_nil, false_imp_iff, implies_true, and_true]
    refine ⟨?_, ?_, fun may => absurd may (by decide), ?_, ?_, ?_, ?_, ?_⟩ <;> exact fun _ => ⟨rfl, _, rfl, rfl⟩
  blank := nofun
  inside := by
    have orderBy {body body' : Json} (change : orderByRecord.Rewritten orderByLeeway body body') :=
      change.readOptional orderByRecord_lawful orderByLeeway_safe
    have limit {body body' : Json} (change : limitRecord.Rewritten limitLeeway body body') :=
      change.readOptional limitRecord_lawful limitLeeway_safe
    simp only [statementRecord, List.forall_mem_cons, List.not_mem_nil, false_imp_iff, implies_true, and_true]
    refine ⟨fun _ _ => False.elim, fun _ _ => False.elim, fun body body' change => ?_, fun body body' change => ?_,
      fun body body' change => ?_, fun _ _ => False.elim, fun body body' change => ?_, fun body body' change => ?_⟩
    · cases change with
      | option before after change =>
        have same := readOptions_rewritten before after change
        refine Field.put_congr (fun options => (readOptions options).outcome.toOption) (fun _ => rfl) ?_ ?_
        · rw [readItemsOf_arr, readItemsOf_arr]
          exact congrArg some same
        · intro options options' form same
          simp only [StatementForm.sense, same]
    · refine Field.put_congr _ (fun _ => rfl) (orderBy change) fun first second form same => ?_
      simp only [StatementForm.sense, same]
    · refine Field.put_congr _ (fun _ => rfl) (limit change) fun first second form same => ?_
      obtain rfl : first = second := by simpa using same
      rfl
    · refine Field.put_congr _ (fun _ => rfl) (orderBy change) fun first second form same => ?_
      simp only [StatementForm.sense, same]
    · refine Field.put_congr _ (fun _ => rfl) (limit change) fun first second form same => ?_
      obtain rfl : first = second := by simpa using same
      rfl

theorem sense_eq_of_rewritten {document document' : Json} (steps : Relation.EqvGen Rewritten document document') :
    (statementRecord.read document).toOption.map StatementForm.sense =
      (statementRecord.read document').toOption.map StatementForm.sense := by
  induction steps with
  | rel _ _ step => exact step.sense_eq statementRecord_lawful statementLeeway_safe
  | refl _ => rfl
  | symm _ _ _ ih => exact ih.symm
  | trans _ _ _ _ _ first second => exact first.trans second

end Document

open Document Outcome

theorem spellings_equivalent {document document' : Json} (steps : Relation.EqvGen Rewritten document document') :
    (∀ q, (Query.ofJson document).outcome = .ok q ↔ (Query.ofJson document').outcome = .ok q) ∧
      ∀ r, (RecursiveQuery.ofJson document).outcome = .ok r ↔ (RecursiveQuery.ofJson document').outcome = .ok r := by
  have query := Query.ofJson_congr (sense_eq_of_rewritten steps)
  have recursive := RecursiveQuery.ofJson_congr (sense_eq_of_rewritten steps)
  constructor
  · intro q
    rw [← toOption_eq_some_iff, ← toOption_eq_some_iff, query]
  · intro r
    rw [← toOption_eq_some_iff, ← toOption_eq_some_iff, recursive]

-- The second document has its keys in another order and partly under other names, and more of them than it needs.
theorem spellings_equivalent_respelled :
    let plain : Json := .obj [("table", .str "users"),
      ("options", .arr [.obj [("CONDITIONS", .obj [("age", .obj [("IN", .arr [])])])]]),
      ("order_by", .obj [("column", .str "id")])]
    let respelled : Json := .obj [("orderBy", .obj [("direction", .str " "), ("column", .str "id")]), ("limit", .null),
      ("note", .str "latest"), ("options", .arr [.obj [("Conditions", .obj [("age", .obj [("in", .arr [])])])]]),
      ("table", .str "users")]
    let q : Query := {
      table := "users"
      clauses := [.conditions [{ column := "age", predicate := { operator := .isIn, operand := .values [] } }]]
      orderBy := some { column := "id", direction := .ascending } }
    Relation.EqvGen Rewritten plain respelled ∧ (Query.ofJson plain).outcome = .ok q ∧
      (Query.ofJson respelled).outcome = .ok q := by
  intro plain respelled q
  let upper : Json := .obj [("age", .obj [("IN", .arr [])])]
  let lower : Json := .obj [("age", .obj [("in", .arr [])])]
  let bare : Json := .obj [("column", .str "id")]
  let blank : Json := .obj [("direction", .str " "), ("column", .str "id")]
  let doc (option : String × Json) (more : List (String × Json)) : Json :=
    .obj (("table", .str "users") :: ("options", .arr [.obj [option]]) :: more)
  have tag : "CONDITIONS".toUpper = "CONDITIONS" := by decide +kernel
  have known : Operator.parse? "IN" = some .isIn := by decide +kernel
  have tag' : "CONDITIONS".toUpper = "Conditions".toUpper := by
    apply String.toList_inj.1
    simp [String.toUpper]
  have token' : "IN".toUpper = "in".toUpper := by
    apply String.toList_inj.1
    simp [String.toUpper]
  have conditions : ConditionsRewritten upper lower := .predicate [] [] "age" (.key [] [] (.arr []) known token')
  have order : orderByRecord.Rewritten orderByLeeway blank bare :=
    .absent [] [_] rfl (by decide) (.blank (by decide) rfl)
  have steps : Relation.EqvGen Rewritten plain respelled := by
    refine .trans _ (doc ("CONDITIONS", lower) [("order_by", bare)]) _ (.rel _ _ ?_) ?_
    · exact .inside [_] [_] rfl (.option [] [] (.entry [] [] (.conditions tag conditions)))
    refine .trans _ (doc ("Conditions", lower) [("order_by", bare)]) _ (.rel _ _ ?_) ?_
    · exact .inside [_] [_] rfl (.option [] [] (.entry [] [] (.tag lower tag')))
    refine .trans _ (doc ("Conditions", lower) [("order_by", blank)]) _ (.symm _ _ (.rel _ _ ?_)) ?_
    · exact .inside [_, _] [] rfl order
    refine .trans _ (doc ("Conditions", lower) [("orderBy", blank)]) _ (.rel _ _ ?_) ?_
    · exact .renamed [_, _] [] _ rfl
    refine .trans _ (doc ("Conditions", lower) [("limit", .null), ("orderBy", blank)]) _ (.symm _ _ (.rel _ _ ?_)) ?_
    · exact .absent [_, _] [_] rfl (by decide) (.null (by decide))
    refine .trans _ (doc ("Conditions", lower) [("note", .str "latest"), ("limit", .null), ("orderBy", blank)]) _
      (.symm _ _ (.rel _ _ ?_)) ?_
    · exact .unnamed [_, _] [_, _] _ rfl
    exact .rel _ _ (.permuted (List.reverse_perm _).symm)
  have form : statementRecord.read plain = .ok {
      table := some "users"
      options := [.obj [("CONDITIONS", upper)]]
      orderBy := some { column := "id" } } := rfl
  have states : States (.obj [("IN", .arr [])]) "IN" (.arr []) true :=
    .object (by simp [unflagged]) (by simp [flag, List.lookup_cons])
  have clauses : (readOptions [.obj [("CONDITIONS", upper)]]).outcome = .ok q.clauses := by
    simp [readOptions, readOption, readEntry, tag, upper, readConditions, readCondition,
      readPredicate_of_states states, known]
    rfl
  have read : (Query.ofJson plain).outcome = .ok q := by
    have ascending : Direction.parse "" = .ok .ascending := Direction.parse_of_blank rfl
    rw [Query.ofJson, form, Traced.lift_ok, pure_bind]
    simp [readQuery, clauses, readOrderBy_some, ascending]
    rfl
  exact ⟨steps, read, ((spellings_equivalent steps).1 q).1 read⟩

end BoundSelect
