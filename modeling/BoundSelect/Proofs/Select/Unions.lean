import BoundSelect.Proofs.Select.Steps

set_option autoImplicit false

namespace BoundSelect

open Outcome

def Clause.union? : Clause → Option Union
  | union u => some u
  | _ => none

namespace Chain

def closedText (c : Chain) : String :=
  String.join (c.closed.map fun (segment, kind) => segment.text ++ unionText kind)

theorem closedText_extend (c : Chain) (kind : Option UnionKind) (next : Segment) :
    (c.extend kind next).closedText = c.text ++ unionText kind := by
  simp [closedText, extend, text, String.append_assoc]

def behind (front c : Chain) : Chain := { c with closed := front.closed ++ c.closed }

variable {front c : Chain}

theorem text_behind : (front.behind c).text = front.closedText ++ c.text := by
  simp [behind, text, closedText, String.append_assoc]

theorem segments_behind : (front.behind c).segments = front.closed.map Prod.fst ++ c.segments := by
  simp [behind, segments]

theorem extend_behind (kind : Option UnionKind) (next : Segment) :
    (front.behind c).extend kind next = front.behind (c.extend kind next) := by
  simp [behind, extend]

theorem main_of_last (c : Chain) (last : Segment) (columns : last.columns = c.last.columns)
    (source : last.source = c.last.source) :
    ({ c with last }).main.columns = c.main.columns ∧ ({ c with last }).main.source = c.main.source := by
  rcases c with ⟨_ | ⟨first, closed⟩, _⟩
  · exact ⟨columns, source⟩
  · exact ⟨rfl, rfl⟩

theorem main_behind_extend (front c : Chain) (kind : Option UnionKind) (next : Segment) :
    ((front.extend kind next).behind c).main = front.main := by
  rcases front with ⟨_ | ⟨first, closed⟩, last⟩ <;> rfl

theorem text_of_closed (closed : c.closed = []) : c.text = c.main.text := by
  simp [text, main, closed, String.join_nil]

theorem head_segments (c : Chain) : c.segments[0]? = some c.main := by
  rcases c with ⟨_ | ⟨⟨first, kind⟩, rest⟩, last⟩ <;> rfl

theorem text_eq_main (c : Chain) : ∃ tail, c.text = c.main.text ++ tail := by
  rcases c with ⟨_ | ⟨⟨first, kind⟩, rest⟩, last⟩
  · exact ⟨"", by simp [text, main, String.join_nil]⟩
  · refine ⟨unionText kind ++ Chain.text ⟨rest, last⟩, ?_⟩
    simp [text, main, String.join_cons, String.append_assoc]

end Chain

namespace Draft

variable {settings : Settings} {d e : Draft}

-- The chain stands in place of the last SELECT of the earlier draft, which is still in front.
structure GoesOn (d : Draft) (c : Chain) (e : Draft) : Prop where
  chain : e.chain = d.chain.behind c
  columns : c.main.columns = d.chain.last.columns
  source : c.main.source = d.chain.last.source

theorem Step.goesOn {f : Draft} {clause : Clause} {c : Chain} (step : Step settings e clause f)
    (goes : d.GoesOn c e) : ∃ c', d.GoesOn c' f := by
  have last : e.chain.last = c.last := by rw [goes.chain, Chain.behind]
  have closed : e.chain.closed = d.chain.closed ++ c.closed := by rw [goes.chain, Chain.behind]
  cases step with
  | @conditions cs tests resolved =>
    let longer : Segment := { c.last with filters := c.last.filters ++ tests }
    have same := Chain.main_of_last c longer rfl rfl
    refine ⟨_, ?_, same.1.trans goes.columns, same.2.trans goes.source⟩
    simp only [last, closed]
    rfl
  | @join j table name pool side on read named sided resolved =>
    let longer : Segment := { c.last with joins := c.last.joins ++ [⟨side, ⟨table, name⟩, on⟩] }
    have same := Chain.main_of_last c longer rfl rfl
    refine ⟨_, ?_, same.1.trans goes.columns, same.2.trans goes.source⟩
    simp only [last, closed]
    rfl
  | @union u table name qualifier pool columns read named qualified listed =>
    let next : Segment := { columns := selected qualifier columns, source := { table, name } }
    refine ⟨c.extend u.kind next, ?_, ?_, ?_⟩
    · rw [← Chain.extend_behind, ← goes.chain]
    · rw [Chain.main_extend, goes.columns]
    · rw [Chain.main_extend, goes.source]

theorem Run.goesOn {clauses : List Clause} (run : Run settings d clauses e) : ∃ c, d.GoesOn c e := by
  have start : d.GoesOn { last := d.chain.last } d := by
    constructor
    · simp [Chain.behind]
    · rfl
    · rfl
  have keep : ∀ e f, ∀ clause ∈ clauses, Step settings e clause f → (∃ c, d.GoesOn c e) → ∃ c, d.GoesOn c f := by
    intro e f clause _ step goes
    obtain ⟨c, goes⟩ := goes
    exact step.goesOn goes
  exact run_invariant keep run ⟨_, start⟩

theorem Step.extend {u : Union} (step : Step settings d (.union u) e) :
    ∃ segment, e.chain = d.chain.extend u.kind segment := by
  cases step with
  | union read named qualified listed => exact ⟨_, rfl⟩

theorem Step.length_closed {c : Clause} (step : Step settings d c e) :
    e.chain.closed.length = d.chain.closed.length + c.union?.toList.length := by
  cases step with
  | conditions resolved => rfl
  | join read named sided resolved => rfl
  | union read named qualified listed => exact List.length_append

theorem Run.length_closed {clauses : List Clause} (run : Run settings d clauses e) :
    e.chain.closed.length = d.chain.closed.length + (clauses.filterMap Clause.union?).length := by
  induction clauses generalizing d with
  | nil =>
    rw [← run_nil_iff.1 run]
    rfl
  | cons c rest ih =>
    obtain ⟨next, step, others⟩ := run_cons_iff.1 run
    have first := step.length_closed
    rw [ih others]
    cases kind : c.union? <;> simp_all
    omega

end Draft

end BoundSelect
