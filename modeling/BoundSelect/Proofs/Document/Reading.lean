import BoundSelect.Proofs.Document.Record
import BoundSelect.Proofs.Vocabulary

set_option autoImplicit false

namespace BoundSelect

open Document Outcome

theorem Value.Representable.ofJson_toJson {v : Value} (representable : v.Representable) :
    ofJson v.toJson = v := by
  cases representable with
  | uint large => simp [toJson, ofJson, Number.ofUInt64, large]
  | float finite => simp [toJson, ofJson, finite]
  | null | bool b | int n | text s | array items | object fields => rfl

theorem Operand.Writable.read {o : Operand} (writable : o.Writable) : readOperand o.toJson = o := by
  cases writable with
  | none => rfl
  | @value v representable present single =>
    have back := representable.ofJson_toJson
    have notNull : v.toJson ≠ .null := fun null => present (by rw [← back, null]; rfl)
    have noList (items : List Json) : v.toJson ≠ .arr items :=
      fun list => single items (by rw [← back, list]; rfl)
    rw [Operand.toJson, readOperand, back]
    · exact notNull
    · exact noList
  | @values vs representable =>
    rw [Operand.toJson, readOperand, List.map_map]
    exact congrArg _ ((List.map_congr_left fun v hv => (representable v hv).ofJson_toJson).trans
      (List.map_id' vs))

namespace Operator

theorem parse_text (o : Operator) : parse o.text = .ok o := by
  have read : parse? o.text = some o := vocabulary.findKeyword_spelling o
  rw [parse, read]

theorem text_ne_process (o : Operator) : o.text ≠ "process" := by
  cases o <;> decide

end Operator

theorem Predicate.read_toJson {p : Predicate} (writable : p.operand.Writable) (column : String) :
    readPredicate column p.toJson = .ok p := by
  -- No operator is spelled like the flag beside it, so the two entries cannot be taken for each other.
  have operator : isProcess (p.operator.text, p.operand.toJson) = false :=
    beq_eq_false_iff_ne.2 p.operator.text_ne_process
  have process : isProcess ("process", .bool p.bound) = true := rfl
  rw [toJson, Json.ofEntries_eq (by simp [p.operator.text_ne_process]), readPredicate,
    readPredicateObject]
  simp [readBound, operator, process, Predicate.parse, p.operator.parse_text, writable.read]
  rfl

theorem Conditions.read_toJson {cs : Conditions} (writable : cs.Writable) :
    readConditions cs.toJson = .ok cs := by
  have keys : (cs.map fun c => (c.column, c.predicate.toJson)).map Prod.fst = cs.map Condition.column :=
    List.map_map
  have each : ∀ c ∈ cs, readCondition (c.column, c.predicate.toJson) = pure c := by
    intro c hc
    rw [readCondition, Predicate.read_toJson (writable.operands c hc)]
    rfl
  rw [toJson, Json.ofEntries_eq (keys ▸ writable.distinct), readConditions, mapM_map_eq_pure each,
    List.map_id']
  rfl

theorem Side.parse?_text (s : Side) : parse? s.text = some s := vocabulary.findKeyword_spelling s

theorem UnionKind.parse_text (k : UnionKind) : parse k.text = .ok (some k) := by
  have keyword : Text.keyword k.text = k.text := by cases k <;> decide +kernel
  rw [parse, keyword]
  cases k <;> rfl

theorem Direction.parse_text (d : Direction) : parse d.text = .ok d := by
  have keyword : Text.keyword d.text = d.text := by cases d <;> decide +kernel
  rw [parse, keyword]
  cases d <;> rfl

theorem readUInt64_ofUInt64 (n : UInt64) : readUInt64 (Json.ofUInt64 n) = .ok n := by
  rw [Json.ofUInt64, Number.ofUInt64]
  split
  case isTrue large => rfl
  case isFalse small =>
    have bound : ¬2 ^ 63 - 1 < n.toNat := small
    have nonneg : 0 ≤ n.toInt64.toInt := by
      rw [← Int64.toInt_toBitVec, UInt64.toBitVec_toInt64, BitVec.toInt_eq_toNat_cond,
        UInt64.toNat_toBitVec]
      split <;> omega
    have notLess : ¬n.toInt64 < 0 := by
      rw [Int64.lt_iff_toInt_lt, Int64.toInt_zero]
      omega
    rw [readUInt64, if_neg notLess, UInt64.toUInt64_toInt64]

theorem readItemsOf_ofTexts (texts : List String) :
    readItemsOf readText (Json.ofTexts texts) = .ok texts := by
  have each : ∀ s ∈ texts, readText (.str s) = pure s := fun s _ => rfl
  rw [Json.ofTexts, readItemsOf, mapM_map_eq_pure each, List.map_id']
  rfl

theorem readItemsOf_arr (items : List Json) : readItemsOf .ok (.arr items) = .ok items :=
  List.mapM_pure.trans (congrArg _ (List.map_id items))

theorem readOptional_of_ne_null {α : Type} (read : Json → Except Mismatch α) {j : Json} (there : j ≠ .null) :
    readOptional read j = some <$> read j := by
  rw [readOptional]
  exact there

theorem readOptional_eq {α : Type} {read : Json → Except Mismatch α} {j : Json} {a : α}
    (h : read j = .ok a) (there : j ≠ .null) : readOptional read j = .ok (some a) :=
  (readOptional_of_ne_null read there).trans (map_eq_ok some h)

def OrderBy.form (o : OrderBy) : OrderByForm := { column := o.column, direction := o.direction.text }

theorem OrderBy.read_toJson (o : OrderBy) : orderByRecord.read o.toJson = .ok o.form := by
  refine Reads.read_ofFields ?_ (show ["column", "direction"].Nodup by decide) ?_
  · exact .present rfl rfl rfl (.present rfl rfl rfl .nil)
  · exact List.cons_subset.2 ⟨List.mem_cons_self, List.nil_subset _⟩

theorem Limit.read_toJson (l : Limit) : limitRecord.read l.toJson = .ok l := by
  refine Reads.read_ofFields ?_ (show ["limit", "offset"].Nodup by decide) ?_
  · refine .present rfl rfl (map_eq_ok _ (readUInt64_ofUInt64 l.limit)) ?_
    exact .optional (fun offset form => { form with offset := offset }) rfl rfl
      (fun n => map_eq_ok _ (readOptional_eq (readUInt64_ofUInt64 n) nofun)) rfl .nil
  · exact List.cons_subset.2 ⟨List.mem_cons_self, List.nil_subset _⟩

theorem Given.unlessBlank {text : Option String} (given : Given text) : unlessBlank text = text := by
  cases text with
  | none => rfl
  | some s => simp [Document.unlessBlank, given s rfl]

namespace Join

def form (j : Join) : JoinForm where
  table := some j.table
  tableAlias := j.tableAlias
  side := j.side.map SideChoice.text
  conditions := some j.on.toJson

theorem read_form (j : Join) : joinRecord.read j.toJson = .ok j.form := by
  refine Reads.read_ofFields ?_ (show ["table", "alias", "side", "conditions"].Nodup by decide)
    (List.nil_subset _)
  refine .present rfl rfl rfl ?_
  refine .optional (fun s form => { form with tableAlias := s }) rfl rfl (fun _ => rfl) rfl ?_
  refine .optional (fun side form => { form with side := side.map SideChoice.text }) rfl rfl
    (fun _ => rfl) rfl ?_
  exact .present rfl rfl rfl .nil

theorem Writable.read_side {j : Join} (writable : j.Writable) :
    (unlessBlank (j.side.map SideChoice.text)).map SideChoice.ofName = j.side := by
  cases given : j.side with
  | none => rfl
  | some choice =>
    cases choice with
    | known side =>
      have dark : Text.isAllBlank side.text = false := by cases side <;> decide
      simp [unlessBlank, SideChoice.text, SideChoice.ofName, dark, side.parse?_text]
    | unrecognized name =>
      obtain ⟨dark, unknown⟩ := writable.side name given
      simp [unlessBlank, SideChoice.text, dark, unknown]

theorem read_toJson {j : Join} (writable : j.Writable) : readJoin j.toJson = .ok j := by
  rw [readJoin, j.read_form]
  change (do
    let on ← readConditions j.on.toJson
    return ({ table := j.table, tableAlias := unlessBlank j.tableAlias,
              side := (unlessBlank (j.side.map SideChoice.text)).map SideChoice.ofName, on } : Join)) = _
  rw [Conditions.read_toJson writable.on, writable.tableAlias.unlessBlank, writable.read_side]
  rfl

end Join

namespace Union

def form (u : Union) : UnionForm where
  kind := u.kind.map UnionKind.text
  table := some u.table
  tableAlias := u.tableAlias
  columns := u.columns
  columnsAlias := u.columnsAlias

theorem read_form (u : Union) : readUnionForm u.toJson = pure u.form := by
  have distinct : (u.fields.map Prod.fst).Nodup :=
    show ["type", "table", "alias", "columns", "columns_alias"].Nodup by decide
  have read : unionRecord.read u.toJson = .ok u.form := by
    refine Reads.read_ofFields ?_ distinct (List.nil_subset _)
    refine .optional (fun kind form => { form with kind := kind.map UnionKind.text }) rfl rfl
      (fun _ => rfl) rfl ?_
    refine .present rfl rfl rfl ?_
    refine .optional (fun s form => { form with tableAlias := s }) rfl rfl (fun _ => rfl) rfl ?_
    refine .optional (fun columns form => { form with columns := columns }) rfl rfl
      (fun columns => map_eq_ok _ (readOptional_eq (readItemsOf_ofTexts columns) nofun)) rfl ?_
    exact .optional (fun s form => { form with columnsAlias := s }) rfl rfl (fun _ => rfl) rfl .nil
  -- An empty object would be no union at all; the table is always there.
  have filled : ∃ entry entries, Json.present u.fields = entry :: entries := by
    cases kind : u.kind <;> simp [fields, kind, Json.present]
  obtain ⟨entry, entries, spelled⟩ := filled
  rw [toJson, Json.ofFields_eq distinct, spelled] at read ⊢
  rw [readUnionForm, read]
  · rfl
  · nofun
  · nofun

theorem read_toJson {u : Union} (writable : u.Writable) : readUnion u.toJson = .ok u := by
  have given : Given (u.kind.map UnionKind.text) := by
    intro s spelled
    obtain ⟨kind, -, rfl⟩ := Option.map_eq_some_iff.1 spelled
    cases kind <;> decide
  have kinds := given.unlessBlank
  rw [readUnion, u.read_form, pure_bind]
  simp only [form, kinds, writable.tableAlias.unlessBlank, writable.columnsAlias.unlessBlank]
  rcases u with ⟨_ | kind, table, tableAlias, columns, columnsAlias⟩
  · rfl
  · simp [kind.parse_text]

end Union

theorem readOption_single {tag : String} {body : Json} {clauses : List Clause}
    (read : readEntry (tag, body) = pure clauses) :
    readOption (.ofEntries [(tag, body)]) = pure clauses := by
  have entries : Json.ofEntries [(tag, body)] = .obj [(tag, body)] := rfl
  rw [entries, readOption, List.mapM_cons, List.mapM_nil, read]
  simp

theorem Clause.read_toJson {c : Clause} (writable : c.Writable) : readOption c.toJson = pure [c] := by
  cases c with
  | conditions cs =>
    have tag : "CONDITIONS".toUpper = "CONDITIONS" := by decide +kernel
    have read : readConditions cs.toJson = .ok cs := Conditions.read_toJson writable
    refine readOption_single ?_
    rw [readEntry, tag, read]
    rfl
  | join j =>
    have tag : "JOIN".toUpper = "JOIN" := by decide +kernel
    refine readOption_single ?_
    rw [readEntry, tag, Join.read_toJson writable]
    rfl
  | union u =>
    have tag : "UNION".toUpper = "UNION" := by decide +kernel
    refine readOption_single ?_
    rw [readEntry, tag, Union.read_toJson writable]
    rfl

theorem readOptions_toJson {clauses : List Clause} (writable : ∀ c ∈ clauses, c.Writable) :
    readOptions (clauses.map Clause.toJson) = pure clauses := by
  have each : ∀ c ∈ clauses, readOption c.toJson = pure [c] :=
    fun c hc => Clause.read_toJson (writable c hc)
  rw [readOptions, mapM_map_eq_pure each, map_pure, ← List.flatMap_def, List.flatMap_singleton']

theorem readOrderBy_form (o : Option OrderBy) : readOrderBy (o.map OrderBy.form) = pure o := by
  cases o with
  | none => rfl
  | some o =>
    have direction : Direction.parse o.form.direction = pure o.direction := o.direction.parse_text
    rw [Option.map_some, readOrderBy, direction, pure_bind]
    rfl

end BoundSelect
