import BoundSelect.Proofs.Reports
import BoundSelect.Proofs.Select.WellFormed
import BoundSelect.Proofs.Text.Clip

set_option autoImplicit false

namespace BoundSelect

open Traced (Reports)

def Join.dropped? (j : Join) : Option Event :=
  match j.side with
  | some (.unrecognized name) => some (.sideDropped name j.table)
  | _ => none

def Clause.dropped? : Clause → Option Event
  | join j => j.dropped?
  | conditions _ | union _ => none

def Query.dropped (q : Query) : List Event := q.clauses.filterMap Clause.dropped?

def Event.announces (e : Event) : Bool := e.message = "statement assembled"

-- Behind the sides that are dropped comes what is built, with no more of its text than the caller wants to see.
structure Traced.Announces {α : Type} (x : Traced α) (settings : Settings) (dropped : List Event)
    (text : α → String) (announcement : Level → α → String → Event) : Prop where
  once : x.events.countP Event.announces = if x.outcome.isOk && settings.reporting.isSome then 1 else 0
  unreported : settings.reporting = none → ∀ a, x.outcome = .ok a → x.events = dropped
  reported : ∀ r, settings.reporting = some r → ∀ a, x.outcome = .ok a →
    ∃ shown, Text.Shown r.limit (text a) shown ∧ x.events = dropped ++ [announcement r.level a shown]
  failed : ∀ f, x.outcome = .error f → x.events <+: dropped

theorem Clause.announces_eq_false_of_dropped {c : Clause} {e : Event} (h : c.dropped? = some e) :
    e.announces = false := by
  rcases c with cs | ⟨table, tableAlias, _ | _ | name, on⟩ | u
  case join.some.unrecognized =>
    obtain rfl := Option.some.inj h
    simp [Event.announces, Event.message]
  all_goals cases h

theorem Settings.events_reportStatement (s : Settings) (kind : StatementKind) (table : String) (binds : Binds)
    (text : String) :
    (s.reportStatement kind table binds text).events =
      (s.reporting.map fun r => Event.assembled r.level kind table binds.size (Text.clip r.limit text)).toList := by
  unfold reportStatement
  cases s.reporting <;> rfl

theorem Traced.Reports.announces {α : Type} {x : Traced α} {settings : Settings} {dropped : List Event}
    {text : α → String} {announcement : Level → α → String → Event} {report : α → Traced Unit}
    (reports : x.Reports dropped) (told : ∀ a, (report a).outcome = .ok ())
    (last : ∀ a, x.outcome = .ok a → (report a).events =
      (settings.reporting.map fun r => announcement r.level a (Text.clip r.limit (text a))).toList)
    (silent : ∀ e ∈ dropped, e.announces = false)
    (loud : ∀ level a shown, (announcement level a shown).announces) :
    (x.thenReport report).Announces settings dropped text announcement := by
  have none_of (es : List Event) (h : es ⊆ dropped) : es.countP Event.announces = 0 := by
    rw [List.countP_eq_zero]
    intro e he
    simp [silent e (h he)]
  have built : ∀ a, x.outcome = .ok a → (x.thenReport report).events = dropped ++
      (settings.reporting.map fun r => announcement r.level a (Text.clip r.limit (text a))).toList := by
    intro a outcome
    rw [events_thenReport_of_ok outcome (told a), reports.whole a outcome, last a outcome]
  have failed : ∀ f, x.outcome = .error f → (x.thenReport report).events <+: dropped := by
    intro f outcome
    rw [events_thenReport_of_error outcome]
    exact reports.cut f outcome
  constructor <;> rw [outcome_thenReport told]
  case failed => exact failed
  case unreported =>
    intro none a outcome
    rw [built a outcome, none]
    exact List.append_nil dropped
  case reported =>
    intro r some a outcome
    refine ⟨Text.clip r.limit (text a), Text.shown_clip r.limit (text a), ?_⟩
    rw [built a outcome, some]
    rfl
  case once =>
    cases outcome : x.outcome with
    | error f =>
      rw [none_of _ (failed f outcome).subset]
      rfl
    | ok a =>
      rw [built a outcome, List.countP_append, none_of _ (List.Subset.refl _)]
      cases settings.reporting with
      | none => rfl
      | some r => simp [loud r.level a _, Except.isOk, Except.toBool]

namespace Draft

theorem reports_resolveSide (settings : Settings) (j : Join) :
    (resolveSide settings j).Reports j.dropped?.toList := by
  rcases j with ⟨table, tableAlias, _ | _ | name, on⟩
  case none | some.known => exact .of_quiet rfl
  case some.unrecognized =>
    simp only [resolveSide]
    split
    case isTrue strict => exact .fail _ _
    case isFalse lenient => exact ⟨fun _ _ => rfl, nofun⟩

theorem reports_addJoin (settings : Settings) (d : Draft) (j : Join) :
    (d.addJoin settings j).Reports j.dropped?.toList := by
  unfold addJoin
  refine .quiet_bind rfl fun table => .quiet_bind rfl fun chosen => ?_
  refine (reports_resolveSide settings j).bind_quiet fun side => ?_
  rw [bind_pure_comp, Traced.events_map]
  rfl

theorem reports_add (settings : Settings) (d : Draft) (c : Clause) :
    (d.add settings c).Reports c.dropped?.toList := by
  cases c with
  | conditions cs => exact .of_quiet rfl
  | join j => exact reports_addJoin settings d j
  | union u => exact .of_quiet rfl

end Draft

namespace Query

theorem reports_fragment (q : Query) : q.fragment.Reports q.dropped := by
  have clauses := Reports.foldlM (Draft.reports_add q.settings) q.clauses
  have draft : q.draft.Reports q.dropped := by
    rw [dropped, List.filterMap_eq_flatMap_toList]
    exact .quiet_bind rfl clauses
  have select : q.select.Reports q.dropped := by
    refine draft.bind_quiet fun d => ?_
    rw [bind_pure_comp, Traced.events_map]
    rfl
  exact select.bind_quiet fun _ => rfl

theorem announces_eq_false_of_mem_dropped {q : Query} {e : Event} (h : e ∈ q.dropped) : e.announces = false := by
  obtain ⟨c, -, reported⟩ := List.mem_filterMap.1 h
  exact Clause.announces_eq_false_of_dropped reported

def announcement (q : Query) (level : Level) (s : Statement) (shown : String) : Event :=
  .assembled level .select q.table s.binds.size shown

theorem announces_build (q : Query) : q.build.Announces q.settings q.dropped Statement.text q.announcement := by
  rw [build_eq]
  refine q.reports_fragment.announces (fun _ => q.settings.reportStatement_outcome _ _ _ _) ?_
    (fun _ => announces_eq_false_of_mem_dropped) fun _ _ _ => rfl
  intro s built
  rw [q.settings.events_reportStatement, table_text_of_fragment built]
  rfl

def reporting (q : Query) (wishes : Option Reporting) : Query := { q with settings.reporting := wishes }

theorem fragment_reporting (q : Query) (wishes : Option Reporting) : (q.reporting wishes).fragment = q.fragment := by
  have add : Draft.add (q.reporting wishes).settings = Draft.add q.settings := by
    funext d c
    cases c <;> rfl
  simp only [fragment, select, draft, add]
  rfl

theorem outcome_reporting (q : Query) (wishes : Option Reporting) :
    (q.reporting wishes).build.outcome = q.build.outcome := by
  rw [outcome_build, outcome_build, fragment_reporting]

end Query

namespace RecursiveQuery

theorem reports_finished (r : RecursiveQuery) : r.finished.Reports r.body.dropped := by
  unfold finished
  cases Text.isAllBlank r.name with
  | true => exact .fail _ _
  | false =>
    cases r.body.orderBy.isSome || r.body.limit.isSome with
    | true =>
      simp only [Bool.false_eq_true, if_false, if_true]
      refine .quiet_bind rfl fun name => ?_
      exact .fail _ _
    | false =>
      simp only [Bool.false_eq_true, if_false]
      refine .quiet_bind rfl fun name => ?_
      refine r.body.reports_fragment.bind_quiet fun base => ?_
      rw [bind_pure_comp, Traced.events_map]
      rfl

def announcement (r : RecursiveQuery) (level : Level) (s : RecursiveStatement) (shown : String) : Event :=
  .assembled level .recursive r.name s.binds.size shown

theorem announces_build (r : RecursiveQuery) :
    r.build.Announces r.body.settings r.body.dropped RecursiveStatement.text r.announcement := by
  rw [build_eq]
  refine r.reports_finished.announces (fun _ => r.body.settings.reportStatement_outcome _ _ _ _) ?_
    (fun _ => Query.announces_eq_false_of_mem_dropped) fun _ _ _ => rfl
  intro s built
  rw [outcome_finished] at built
  obtain ⟨-, -, name, base, sorting, named, -, -, rfl⟩ := build_eq_ok_iff.1 built
  rw [r.body.settings.events_reportStatement, (Name.parse_sound named).2]
  rfl

def reporting (r : RecursiveQuery) (wishes : Option Reporting) : RecursiveQuery :=
  { r with body := r.body.reporting wishes }

theorem outcome_reporting (r : RecursiveQuery) (wishes : Option Reporting) :
    (r.reporting wishes).build.outcome = r.build.outcome := by
  have finished : (r.reporting wishes).finished = r.finished := by
    have body : (r.reporting wishes).body.fragment = r.body.fragment := r.body.fragment_reporting wishes
    simp only [RecursiveQuery.finished, body]
    rfl
  rw [← outcome_finished, ← outcome_finished, finished]

end RecursiveQuery

-- A body that is wrapped is not reported, but the sides it drops are.
theorem builds_announced :
    (∀ q : Query, q.build.Announces q.settings q.dropped Statement.text q.announcement ∧
      ∀ wishes, (q.reporting wishes).build.outcome = q.build.outcome) ∧
    ∀ r : RecursiveQuery,
      r.build.Announces r.body.settings r.body.dropped RecursiveStatement.text r.announcement ∧
        ∀ wishes, (r.reporting wishes).build.outcome = r.build.outcome :=
  ⟨fun q => ⟨q.announces_build, q.outcome_reporting⟩, fun r => ⟨r.announces_build, r.outcome_reporting⟩⟩

def Query.unsided : Query where
  table := "users"
  clauses := [
    .join { table := "orders", side := some (.unrecognized "sideways") },
    .union { table := "guests" },
    .join { table := "visits", side := some (.unrecognized "cross") },
    .conditions [⟨"pages", .value .greater (.int 1)⟩]]
  settings := { reporting := some { level := .info, limit := some 6 } }

def RecursiveQuery.unsided (name : String) : RecursiveQuery where
  body := Query.unsided
  name := name

theorem builds_announced_unsided :
    (∃ s, Query.unsided.build.outcome = .ok s ∧ Text.Shown (some 6) s.text "SELECT..." ∧
      Query.unsided.build.events =
        [.sideDropped "sideways" "orders", .sideDropped "cross" "visits",
          .assembled .info .select "users" 1 "SELECT..."] ∧
      (Query.unsided.reporting none).build.outcome = .ok s) ∧
    (∃ s, (RecursiveQuery.unsided "tree").build.outcome = .ok s ∧ Text.Shown (some 6) s.text "WITH R..." ∧
      (RecursiveQuery.unsided "tree").build.events =
        [.sideDropped "sideways" "orders", .sideDropped "cross" "visits",
          .assembled .info .recursive "tree" 1 "WITH R..."]) ∧
    (RecursiveQuery.unsided "tree.").build.events.countP Event.announces = 0 := by
  have built : Query.unsided.build.outcome.isOk := by decide +kernel
  have builtRecursive : (RecursiveQuery.unsided "tree").build.outcome.isOk := by decide +kernel
  have failed : (RecursiveQuery.unsided "tree.").build.outcome.isOk = false := by decide +kernel
  let dropped : List Event := [.sideDropped "sideways" "orders", .sideDropped "cross" "visits"]
  have events : Query.unsided.build.events = dropped ++ [.assembled .info .select "users" 1 "SELECT..."] := by
    decide +kernel
  have eventsRecursive : (RecursiveQuery.unsided "tree").build.events =
      dropped ++ [.assembled .info .recursive "tree" 1 "WITH R..."] := by
    decide +kernel
  obtain ⟨s, h⟩ := Outcome.isOk_iff.1 built
  obtain ⟨r, hr⟩ := Outcome.isOk_iff.1 builtRecursive
  obtain ⟨announced, unchanged⟩ := builds_announced.1 Query.unsided
  obtain ⟨shown, cut, told⟩ := announced.reported _ rfl s h
  obtain ⟨shownRecursive, cutRecursive, toldRecursive⟩ :=
    (builds_announced.2 (.unsided "tree")).1.reported _ rfl r hr
  have last := List.append_cancel_left (events.symm.trans told)
  have lastRecursive := List.append_cancel_left (eventsRecursive.symm.trans toldRecursive)
  obtain rfl : "SELECT..." = shown := by
    injection last with event
    injection event
  obtain rfl : "WITH R..." = shownRecursive := by
    injection lastRecursive with event
    injection event
  refine ⟨⟨s, h, cut, events, (unchanged none).trans h⟩, ⟨r, hr, cutRecursive, eventsRecursive⟩, ?_⟩
  rw [(builds_announced.2 (.unsided "tree.")).1.once, failed]
  rfl

end BoundSelect
