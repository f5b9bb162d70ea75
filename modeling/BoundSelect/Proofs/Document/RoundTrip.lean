import BoundSelect.Proofs.Document.Reading

set_option autoImplicit false

namespace BoundSelect

open Document Outcome

namespace Query

def form (q : Query) : StatementForm where
  table := some q.table
  columns := some q.columns
  options := q.clauses.map Clause.toJson
  orderBy := q.orderBy.map OrderBy.form
  limit := q.limit

theorem reads_fields (q : Query) : Reads statementRecord {} q.fields q.form := by
  refine .present rfl rfl rfl ?_
  refine .present rfl rfl (map_eq_ok _ (readOptional_eq (readItemsOf_ofTexts q.columns) nofun)) ?_
  refine .present rfl rfl (map_eq_ok _ (readItemsOf_arr _)) ?_
  refine .optional (fun orderBy form => { form with orderBy := orderBy.map OrderBy.form }) rfl rfl
    (fun o => map_eq_ok _ (readOptional_eq o.read_toJson nofun)) rfl ?_
  exact .optional (fun limit form => { form with limit := limit }) rfl rfl
    (fun l => map_eq_ok _ (readOptional_eq l.read_toJson nofun)) rfl .nil

theorem readQuery_form {q : Query} (writable : q.Writable) : readQuery q.form = pure q := by
  have same : { q with tableAlias := none, settings := {} } = q := by
    rw [← writable.tableAlias, ← writable.settings]
  rw [readQuery, form, readOptions_toJson writable.clauses, pure_bind, readOrderBy_form]
  exact congrArg pure same

theorem ofJson_toJson {q : Query} (writable : q.Writable) : ofJson q.toJson = pure q := by
  have distinct : (q.fields.map Prod.fst).Nodup :=
    show ["table", "columns", "options", "order_by", "limit"].Nodup by decide
  have read : statementRecord.read q.toJson = .ok q.form :=
    q.reads_fields.read_ofFields distinct (List.nil_subset _)
  rw [ofJson, read, Traced.lift_ok, pure_bind, readQuery_form writable]

end Query

namespace RecursiveQuery

def form (r : RecursiveQuery) : StatementForm :=
  { r.body.form with
    recursionName := some r.name
    recursionOrderBy := r.orderBy.map OrderBy.form
    recursionLimit := r.limit }

theorem reads_fields (r : RecursiveQuery) : Reads statementRecord {} r.fields r.form := by
  refine r.body.reads_fields.append ?_
  refine .present rfl rfl rfl ?_
  refine .optional (fun orderBy form => { form with recursionOrderBy := orderBy.map OrderBy.form }) rfl rfl
    (fun o => map_eq_ok _ (readOptional_eq o.read_toJson nofun)) rfl ?_
  exact .optional (fun limit form => { form with recursionLimit := limit }) rfl rfl
    (fun l => map_eq_ok _ (readOptional_eq l.read_toJson nofun)) rfl .nil

theorem ofJson_toJson {r : RecursiveQuery} (writable : r.body.Writable) : ofJson r.toJson = pure r := by
  have distinct : (r.fields.map Prod.fst).Nodup :=
    show ["table", "columns", "options", "order_by", "limit", "recursion_name", "recursion_order_by",
      "recursion_limit"].Nodup by decide
  have read : statementRecord.read r.toJson = .ok r.form :=
    r.reads_fields.read_ofFields distinct (List.nil_subset _)
  have body : readQuery r.form = pure r.body := Query.readQuery_form writable
  have orderBy : readOrderBy r.form.recursionOrderBy = pure r.orderBy := readOrderBy_form r.orderBy
  rw [ofJson, read, Traced.lift_ok, pure_bind, body, pure_bind, orderBy]
  rfl

end RecursiveQuery

theorem documents_faithful {q : Query} (writable : q.Writable) :
    Query.ofJson q.toJson = pure q ∧
      ∀ r : RecursiveQuery, r.body = q → RecursiveQuery.ofJson r.toJson = pure r :=
  ⟨Query.ofJson_toJson writable, fun _ same => RecursiveQuery.ofJson_toJson (same ▸ writable)⟩

-- A side that is not recognized, an empty list of columns, and a limit above the signed integers.
def Query.documented : Query where
  table := "users"
  columns := ["id", "total"]
  clauses := [
    .conditions [⟨"age", .between (.int 18) (.int 65)⟩, ⟨"deleted at", .isNull⟩],
    .join {
      table := "orders"
      tableAlias := some "o"
      side := some (.unrecognized "sideways")
      on := [⟨"user_id", .column .equal "u0.id"⟩, ⟨"details", .value .notEqual (.json (.obj []))⟩] },
    .union { kind := some .all, table := "old", columns := some [], columnsAlias := some "a" }]
  orderBy := some ⟨"id", .descending⟩
  limit := some { limit := 18446744073709551615, offset := some 20 }

theorem documents_faithful_documented :
    let recursive : RecursiveQuery := { body := Query.documented, name := "tree" }
    Query.documented.Writable ∧ Query.ofJson Query.documented.toJson = pure Query.documented ∧
      RecursiveQuery.ofJson recursive.toJson = pure recursive := by
  have conditions : Conditions.Writable
      [⟨"age", .between (.int 18) (.int 65)⟩, ⟨"deleted at", .isNull⟩] := by
    refine ⟨by decide, ?_⟩
    simp only [List.forall_mem_cons]
    refine ⟨.values ?_, .none, nofun⟩
    simp only [List.forall_mem_cons]
    exact ⟨.int 18, .int 65, nofun⟩
  have on : Conditions.Writable
      [⟨"user_id", .column .equal "u0.id"⟩, ⟨"details", .value .notEqual (.json (.obj []))⟩] := by
    refine ⟨by decide, ?_⟩
    simp only [List.forall_mem_cons]
    exact ⟨.value (.text _) nofun nofun, .value (.object []) nofun nofun, nofun⟩
  have writable : Query.documented.Writable := by
    refine ⟨rfl, rfl, ?_⟩
    simp only [Query.documented, List.forall_mem_cons]
    refine ⟨conditions, ⟨?_, ?_, on⟩, ⟨nofun, ?_⟩, nofun⟩
    · rintro _ ⟨⟩
      decide
    · rintro _ ⟨⟩
      exact ⟨by decide, by decide +kernel⟩
    · rintro _ ⟨⟩
      decide
  have read := documents_faithful writable
  exact ⟨writable, read.1, read.2 _ rfl⟩

end BoundSelect
