import Mathlib.Data.List.Induction
import Mathlib.Data.List.Infix
import BoundSql.Proofs.Condition.Bound
import BoundSql.Proofs.Statement.Draft

/-!
# The grammar of the standard rules

Which calls the standard rules let follow each other. A shape is a list of parts; the sentences
are the shapes of the longest statements, and a shape is begun if some sentence begins with it.

Main statement: `standard_grammar`. Calls whose arguments can be used all succeed exactly if their
parts are begun, whatever is appended between them; the statement renders exactly if its parts are
one of the complete shapes, and its text is the texts of the calls in their order with the text
appended last behind them. No UPDATE and no DELETE is rendered without a condition.
-/

namespace BoundSql

/-- How the condition of a filter is written: literal SQL as it is given, which is not blank, and
a tree with the names that its values have taken. -/
inductive Filter.WrittenAs : Filter → String → Prop where
  | raw {conditions : String} (values : Params) (filled : Text.isBlank conditions = false) :
    WrittenAs (.raw conditions values) conditions
  | tree (bound : BoundCondition) : WrittenAs (.tree bound.condition) bound.text

namespace Builder

/-! ## Sentences -/

/-- The parts of the longest statements, in the order of the calls. -/
def sentences : List (List Part) :=
  [[.clause .insertInto, .clause .insertValues],
    [.clause .select, .clause .fromTables, .clause .filter],
    [.clause .update, .clause .updateSet, .clause .filter],
    [.clause .delete, .clause .fromTables, .clause .filter],
    [.custom]]

/-- The parts of the statements that render. -/
def completeShapes : List (List Part) :=
  [[.clause .insertInto, .clause .insertValues],
    [.clause .select, .clause .fromTables],
    [.clause .select, .clause .fromTables, .clause .filter],
    [.clause .update, .clause .updateSet, .clause .filter],
    [.clause .delete, .clause .fromTables, .clause .filter],
    [.custom]]

/-- Some sentence begins with the shape. -/
def Begun (shape : List Part) : Prop :=
  ∃ s ∈ sentences, shape <+: s

instance (shape : List Part) : Decidable (Begun shape) :=
  inferInstanceAs (Decidable (∃ s ∈ sentences, shape <+: s))

/-- Every shape that is begun. -/
def begunShapes : List (List Part) :=
  sentences.flatMap List.inits

/-- The shapes that are begun are listed. -/
theorem mem_begunShapes {shape : List Part} : shape ∈ begunShapes ↔ Begun shape := by
  simp [begunShapes, Begun, List.mem_inits]

theorem begun_nil : Begun [] := by decide

/-- A complete shape is begun. -/
theorem begun_of_complete : ∀ shape ∈ completeShapes, Begun shape := by decide

/-- What is begun was begun before. -/
theorem Begun.of_append {shape more : List Part} (h : Begun (shape ++ more)) : Begun shape := by
  obtain ⟨s, hs, hprefix⟩ := h
  exact ⟨s, hs, (List.prefix_append shape more).trans hprefix⟩

/-! ## Refusals

What the rules say about a builder depends on its kind and on which clauses are present. Under the
standard rules both depend on the shape alone, and there are few shapes that are begun. -/

/-- Builders with the same rules, kind and clauses refuse the same. -/
theorem refusal?_congr {b b' : Builder} (ht : b.table = b'.table)
    (hr : b.isRendered = b'.isRendered) (hk : b.kind = b'.kind) (hh : ∀ c, b.has c = b'.has c)
    (c : Clause) : b.refusal? c = b'.refusal? c := by
  simp only [refusal?, dependentRefusal?, ht, hr, hk, hh]

/-- A builder with nothing but the parts of a shape. -/
def outline (shape : List Part) : Builder :=
  { withRules .standard with
    kind := kindOf .standard shape
    clauses := fun c => if .clause c ∈ shape then some "" else none }

/-- The rules take a clause on a shape exactly if the shape with it is begun, as all cases show. -/
theorem outline_refusal? : ∀ shape ∈ begunShapes, ∀ c : Clause,
    (outline shape).refusal? c = none ↔ Begun (shape ++ [.clause c]) := by
  intro shape hshape c
  revert shape
  cases c <;> decide

/-- A custom statement can only be begun where nothing is. -/
theorem kindOf_eq_none_iff : ∀ shape ∈ begunShapes,
    kindOf .standard shape = none ↔ Begun (shape ++ [.custom]) := by
  decide

/-- Before it is rendered, a builder takes a clause exactly if the shape with it is begun. -/
theorem refusal?_eq_none_iff {d : Draft} {b : Builder} (ht : b.table = .standard)
    (h : d.Agrees b) (fresh : b.isRendered = false) (hb : Begun d.shape) (c : Clause) :
    b.refusal? c = none ↔ Begun (d.shape ++ [.clause c]) := by
  -- Only the shape counts for a refusal, and there are few shapes: `outline_refusal?` has gone
  -- through them.
  have hsame : b.refusal? c = (outline d.shape).refusal? c := by
    apply refusal?_congr
    · exact ht
    · exact fresh
    · rw [h.kind, ht]
      rfl
    · intro e
      rw [h.has, Draft.textOf?_isSome]
      by_cases he : Part.clause e ∈ d.shape <;> simp [has, outline, he]
  rw [hsame]
  exact outline_refusal? d.shape (mem_begunShapes.2 hb) c

/-! ## Rendering -/

/-- Builders with the same parts render the same. -/
theorem render_congr {b b' : Builder} (ht : b.table = b'.table) (hk : b.kind = b'.kind)
    (hc : b.clauses = b'.clauses) (hu : b.custom = b'.custom) (ha : b.appended = b'.appended) :
    b.render = b'.render := by
  have hh : b.has = b'.has := by
    funext c
    rw [has, has, hc]
  simp only [render, fragments, ht, hk, hc, hu, ha, hh]

/-- The builder that a draft describes, with a text after all parts. -/
def ofDraft (d : Draft) (appended : Option String) : Builder where
  table := .standard
  kind := kindOf .standard d.shape
  clauses := fun c => d.textOf? (.clause c)
  custom := d.textOf? .custom
  appended := appended
  params := d.params
  rendered := none

/-- What a draft renders to under the standard rules. -/
def Draft.rendering (d : Draft) (appended : Option String) : Except QueryError String :=
  if d.shape ∈ completeShapes then .ok (d.text ++ appended.getD "")
  else .error (.incompleteStatement (((kindOf .standard d.shape).map Kind.name).getD "empty"))

/-- The builder of a draft renders what the draft renders to. -/
theorem ofDraft_render {d : Draft} (hb : Begun d.shape) (appended : Option String) :
    (ofDraft d appended).render = d.rendering appended := by
  obtain ⟨s, hs, hprefix⟩ := hb
  obtain ⟨parts, params⟩ := d
  simp only [sentences, List.mem_cons, List.not_mem_nil, or_false] at hs
  -- A sentence has at most three parts, so the texts of the parts can be named: one case for each
  -- count of parts, and in it one for each sentence that begins with them.
  rcases parts with _ | ⟨⟨p, t⟩, _ | ⟨⟨q, u⟩, _ | ⟨⟨r, v⟩, _ | ⟨last, rest⟩⟩⟩⟩
  · rfl
  · rcases hs with rfl | rfl | rfl | rfl | rfl <;>
      simp only [Draft.shape, List.map_cons, List.map_nil, List.cons_prefix_cons,
        List.nil_prefix, and_true] at hprefix <;>
      obtain rfl := hprefix <;> rfl
  · rcases hs with rfl | rfl | rfl | rfl | rfl <;>
      simp only [Draft.shape, List.map_cons, List.map_nil, List.cons_prefix_cons,
        List.prefix_nil, List.nil_prefix, reduceCtorEq, and_true, and_false] at hprefix <;>
      obtain ⟨rfl, rfl⟩ := hprefix <;> rfl
  · rcases hs with rfl | rfl | rfl | rfl | rfl <;>
      simp only [Draft.shape, List.map_cons, List.map_nil, List.cons_prefix_cons,
        List.prefix_nil, reduceCtorEq, and_true, and_false] at hprefix <;>
      obtain ⟨rfl, rfl, rfl⟩ := hprefix <;> rfl
  · rcases hs with rfl | rfl | rfl | rfl | rfl <;>
      simp only [Draft.shape, List.map_cons, List.cons_prefix_cons, List.prefix_nil, reduceCtorEq,
        and_false] at hprefix

/-- A builder that tracks its calls renders what their draft renders to. -/
theorem render_of_tracks {calls : List Call} {d : Draft} {b : Builder}
    (h : Draft.Tracks .standard calls d b) (hb : Begun d.shape) :
    b.render = d.rendering (lastAppended calls) := by
  rw [← ofDraft_render hb]
  apply render_congr
  · exact h.table_eq
  · rw [h.agrees.kind, h.table_eq]
    rfl
  · exact funext h.agrees.clauses
  · exact h.agrees.custom
  · exact h.appended

/-- A draft renders to its texts exactly if its shape is complete. -/
theorem rendering_eq_ok_iff {d : Draft} {appended : Option String} {sql : String} :
    d.rendering appended = .ok sql ↔
      d.shape ∈ completeShapes ∧ sql = d.text ++ appended.getD "" := by
  unfold Draft.rendering
  by_cases hc : d.shape ∈ completeShapes
  · simp [hc, eq_comm]
  · simp [hc]

/-! ## Runs -/

/-- A call that succeeds keeps the parts begun. -/
theorem Begun.step {calls : List Call} {d : Draft} {b b' : Builder} {call : Call} {r : Response}
    (hbegun : Begun d.shape) (h : Draft.Tracks .standard calls d b) (hstep : Step b call r b') :
    Begun (d.shape ++ call.part?.toList) := by
  cases hstep with
  | @clause _ c w hc legal written =>
    -- a clause that is taken is taken before rendering
    have fresh : b.isRendered = false := by
      cases hr : b.rendered with
      | none => simp [isRendered, hr]
      | some sql =>
        rw [refusal?_of_rendered hr] at legal
        cases legal
    rw [Draft.part?_of_clause hc]
    exact (refusal?_eq_none_iff h.table_eq h.agrees fresh hbegun c).1 legal
  | append sql fresh => simpa [Call.part?, Call.clause?] using hbegun
  | setQuery sql bound fresh hk =>
    -- a whole statement is taken where nothing has been started
    rw [h.agrees.kind, h.table_eq] at hk
    exact (kindOf_eq_none_iff d.shape (mem_begunShapes.2 hbegun)).1 hk
  | render ha fresh text =>
    rw [Draft.part?_of_answer ha]
    simpa using hbegun
  | again ha kept =>
    rw [Draft.part?_of_answer ha]
    simpa using hbegun

/-- On a run without failures under the standard rules, the builder tracks the draft of the calls
and the parts are begun. -/
theorem begun_of_run {calls : List Call} {b : Builder} (h : Run new calls b) :
    ∃ d, Draft.Tracks .standard calls d b ∧ Begun d.shape := by
  induction h with
  | start =>
    refine ⟨.empty, ⟨rfl, rfl, Draft.agrees_empty .standard, rfl, ?_⟩, begun_nil⟩
    intro sql hsql
    cases hsql
  | call _ hcall ih =>
    obtain ⟨d, htracks, hbegun⟩ := ih
    obtain ⟨d', hadd, htracks'⟩ := htracks.step (apply_eq_ok_iff.1 hcall)
    refine ⟨d', htracks', ?_⟩
    -- the shape grows by the part of the call, and stays begun
    rw [Draft.shape_of_add hadd]
    exact hbegun.step htracks (apply_eq_ok_iff.1 hcall)

/-! ## Acceptance -/

/-- The argument of the call can be used, whatever the builder; a call that asks for the statement
does not count. -/
def Call.Valid : Call → Prop
  | .insertInto t => ∃ table, t.resolve .insertInto = .ok table
  | .values data => ∃ row, data.bindable .insertValues = .ok row
  | .select columns => ∃ text, columns.render .select = .ok text
  | .fromTables ts => ∃ tables, resolveTargets ts .fromTables = .ok tables
  | .update t => ∃ table, t.resolve .update = .ok table
  | .set data => ∃ row, data.bindable .updateSet = .ok row
  | .filter (Filter.raw conditions _) => Text.isBlank conditions = false
  | .filter (Filter.tree condition) => ∃ text, (condition.compile .empty).1 = .ok text
  | .delete | .append _ | .setQuery _ _ => True
  | .statement | .bindings | .build => False

/-- An argument that can be used is written into any statement. -/
theorem Call.Valid.write {call : Call} (h : call.Valid) (k : Option Kind) (p : Params) :
    ∃ w, call.write k p = .ok w := by
  -- Only filters look at the kind and the bindings; any other argument is written alike into every
  -- statement.
  cases call with
  | insertInto t =>
    obtain ⟨table, ht⟩ := h
    exact ⟨_, by rw [Call.write, ht]; rfl⟩
  | values data =>
    obtain ⟨row, hrow⟩ := h
    exact ⟨_, by rw [Call.write, hrow]; rfl⟩
  | select columns =>
    obtain ⟨text, ht⟩ := h
    exact ⟨_, by rw [Call.write, ht]; rfl⟩
  | fromTables ts =>
    obtain ⟨tables, ht⟩ := h
    exact ⟨_, by rw [Call.write, ht]; rfl⟩
  | update t =>
    obtain ⟨table, ht⟩ := h
    exact ⟨_, by rw [Call.write, ht]; rfl⟩
  | set data =>
    obtain ⟨row, hrow⟩ := h
    exact ⟨_, by rw [Call.write, hrow]; rfl⟩
  | filter f =>
    cases f with
    -- literal SQL is written whatever is bound
    | raw conditions bound =>
      have hb : ¬ Text.isBlank conditions = true := by simpa [Call.Valid] using h
      exact ⟨_, by rw [Call.write, if_neg hb]⟩
    | tree condition =>
      obtain ⟨text, ht⟩ := h
      -- Whether a condition compiles does not hang on what is bound already.
      have hcomplete : condition.Complete := by
        rw [← Condition.compile_isOk_iff condition .empty, ht]
        rfl
      have hok := (Condition.compile_isOk_iff condition p).2 hcomplete
      cases hp : (condition.compile p).1 with
      | error e => simp [hp, Except.isOk, Except.toBool] at hok
      | ok text' => exact ⟨_, by rw [Call.write, hp]; rfl⟩
  | delete => exact ⟨_, rfl⟩
  | append sql => exact ⟨_, rfl⟩
  | setQuery sql bound => exact ⟨_, rfl⟩
  -- calls that ask for the statement are not among those that count
  | statement => exact h.elim
  | bindings => exact h.elim
  | build => exact h.elim

/-- A call with a usable argument succeeds exactly if the parts with its own are begun. -/
theorem isOk_outcome_iff_begun {calls : List Call} {d : Draft} {b : Builder} {call : Call}
    (h : Draft.Tracks .standard calls d b) (hb : Begun d.shape) (fresh : b.isRendered = false)
    (hv : call.Valid) :
    (b.outcome call).isOk = true ↔ Begun (d.shape ++ call.part?.toList) := by
  rw [isOk_outcome_iff]
  constructor
  · -- a step keeps the parts begun
    rintro ⟨r, b', hstep⟩
    exact hb.step h hstep
  · intro hbegun
    cases hc : call.clause? with
    | some c =>
      rw [Draft.part?_of_clause hc] at hbegun
      -- the rules take the clause, and its argument can be used
      have legal : b.refusal? c = none :=
        (refusal?_eq_none_iff h.table_eq h.agrees fresh hb c).2 hbegun
      obtain ⟨w, written⟩ := hv.write b.kind b.params
      exact ⟨_, _, .clause hc legal written⟩
    | none =>
      cases call with
      | append sql => exact ⟨_, _, .append sql fresh⟩
      | setQuery sql bound =>
        -- a whole statement is begun only where no kind has been settled
        have hk : b.kind = none := by
          rw [h.agrees.kind, h.table_eq]
          exact (kindOf_eq_none_iff d.shape (mem_begunShapes.2 hb)).2 hbegun
        exact ⟨_, _, .setQuery sql bound fresh hk⟩
      | statement => exact hv.elim
      | bindings => exact hv.elim
      | build => exact hv.elim
      | _ => simp [Call.clause?] at hc

/-- A call that counts does not ask for the statement. -/
theorem Call.Valid.answer?_eq_none {call : Call} (h : call.Valid) : call.answer? = none := by
  cases call with
  | statement => exact h.elim
  | bindings => exact h.elim
  | build => exact h.elim
  | _ => rfl

/-- Calls that do not ask for the statement do not render it. -/
theorem isRendered_of_valid {call : Call} {b : Builder} (hv : call.Valid)
    (fresh : b.isRendered = false) : (b.after call).isRendered = false := by
  cases hc : apply call b with
  | error e b' =>
    have hb : b' = b := apply_error hc
    simpa [after, hc, hb] using fresh
  | ok r b' =>
    have hafter : b.after call = b' := by simp [after, hc]
    rw [hafter]
    cases apply_eq_ok_iff.1 hc with
    | clause hc' legal written => exact fresh
    | append sql _ => exact fresh
    | setQuery sql bound _ hk => exact fresh
    -- only asking for the statement renders it
    | render ha _ text =>
      rw [Call.Valid.answer?_eq_none hv] at ha
      cases ha
    | again ha kept => exact fresh

/-- Calls that count leave the statement unrendered. -/
theorem isRendered_afterAll {calls : List Call} (hv : ∀ call ∈ calls, call.Valid) :
    (new.afterAll calls).isRendered = false := by
  induction calls using List.reverseRecOn with
  | nil => rfl
  | append_singleton calls call ih =>
    rw [afterAll_append]
    exact isRendered_of_valid (hv call (by simp)) (ih fun c hc => hv c (List.mem_append_left _ hc))

/-- Calls with usable arguments all succeed exactly if their parts are begun. -/
theorem outcomes_isOk_iff_begun {calls : List Call} (hv : ∀ call ∈ calls, call.Valid) :
    (∀ o ∈ new.outcomes calls, o.isOk = true) ↔ Begun (calls.filterMap Call.part?) := by
  induction calls using List.reverseRecOn with
  | nil => simpa [outcomes] using begun_nil
  | append_singleton calls call ih =>
    have hvcalls : ∀ c ∈ calls, c.Valid := fun c hc => hv c (List.mem_append_left _ hc)
    have hparts : (calls ++ [call]).filterMap Call.part? =
        calls.filterMap Call.part? ++ call.part?.toList := by
      rw [List.filterMap_append]
      cases hp : call.part? <;> simp [hp]
    -- After calls that all succeed, the parts decide about the next call.
    have hnext : (∀ o ∈ new.outcomes calls, o.isOk = true) →
        (((new.afterAll calls).outcome call).isOk = true ↔
          Begun (calls.filterMap Call.part? ++ call.part?.toList)) := by
      intro hbefore
      obtain ⟨d, htracks, hbegun⟩ := begun_of_run (run_of_outcomes hbefore)
      rw [← Draft.shape_of_ofCalls htracks.draft]
      exact isOk_outcome_iff_begun htracks hbegun (isRendered_afterAll hvcalls) (hv call (by simp))
    rw [outcomes_append, hparts]
    simp only [List.mem_append, List.mem_singleton, or_imp, forall_and, forall_eq]
    constructor
    · rintro ⟨hbefore, hlast⟩
      exact (hnext hbefore).1 hlast
    · intro hbegun
      -- what begins with more parts begins with fewer, so the calls before succeed too
      have hbefore := (ih hvcalls).2 hbegun.of_append
      exact ⟨hbefore, (hnext hbefore).2 hbegun⟩

/-- What a builder that tracks its calls answers when it is asked for the statement. -/
theorem outcome_of_tracks {calls : List Call} {d : Draft} {b : Builder} {call : Call}
    {answer : Rendered → Answer} {r : Response} (h : Draft.Tracks .standard calls d b)
    (hb : Begun d.shape) (ha : call.answer? = some answer) (hok : b.outcome call = .ok r) :
    d.shape ∈ completeShapes ∧ ∃ events,
      r = ⟨answer ⟨d.text ++ (lastAppended calls).getD "", d.params, events⟩, events⟩ := by
  obtain ⟨sql, events, hrender, rfl⟩ := h.render_of_outcome ha hok
  rw [render_of_tracks h hb, rendering_eq_ok_iff] at hrender
  obtain ⟨hcomplete, rfl⟩ := hrender
  exact ⟨hcomplete, events, by rw [h.agrees.params]⟩

/-- The statement is given exactly if the parts are a complete shape. -/
theorem isOk_statement_iff {calls : List Call} {d : Draft} {b : Builder}
    (h : Draft.Tracks .standard calls d b) (hb : Begun d.shape) (fresh : b.isRendered = false) :
    (b.outcome .statement).isOk = true ↔ d.shape ∈ completeShapes := by
  constructor
  · intro hok
    cases ho : b.outcome .statement with
    | error e => simp [ho, Except.isOk, Except.toBool] at hok
    | ok r => exact (outcome_of_tracks h hb rfl ho).1
  · intro hcomplete
    have hrender : b.render = .ok (d.text ++ (lastAppended calls).getD "") := by
      rw [render_of_tracks h hb]
      exact rendering_eq_ok_iff.2 ⟨hcomplete, rfl⟩
    have hnone : b.rendered = none := by simpa [isRendered] using fresh
    exact isOk_outcome_iff.2 ⟨_, _, .render rfl hnone hrender⟩

/-! ## Conditions -/

/-- An UPDATE or a DELETE that is complete ends with its condition. -/
theorem filter_last_of_complete : ∀ shape ∈ completeShapes,
    kindOf .standard shape = some .update ∨ kindOf .standard shape = some .delete →
      shape.getLast? = some (.clause .filter) := by
  decide

/-- A call that puts down a condition is given a filter. -/
theorem exists_of_clause?_eq_filter {call : Call} (h : call.clause? = some .filter) :
    ∃ f, call = .filter f := by
  cases call with
  | filter f => exact ⟨f, rfl⟩
  | _ => cases h

/-- What a filter writes is the word WHERE and the condition. -/
theorem exists_of_write_filter {k : Option Kind} {p : Params} {f : Filter} {w : Writing}
    (h : Call.write k p (.filter f) = .ok w) :
    ∃ condition, f.WrittenAs condition ∧ w.text = "WHERE " ++ condition ++ " " := by
  cases f with
  | raw conditions values =>
    rw [Call.write] at h
    split at h
    · cases h
    · rename_i hblank
      cases h
      exact ⟨conditions, .raw values (by simpa using hblank), rfl⟩
  -- the names that the values have taken are those of the compiled condition
  | tree condition =>
    obtain ⟨text, htext, rfl⟩ := exists_of_map_eq_ok h
    obtain ⟨bound, rfl, rfl, -, -⟩ := Condition.compile_eq_ok htext
    exact ⟨bound.text, .tree bound, rfl⟩

/-- The text of an UPDATE or a DELETE that is complete ends with the condition of one of its
calls. -/
theorem exists_filter_of_complete {calls : List Call} {d : Draft}
    (h : Draft.ofCalls .standard calls = .ok d) (hc : d.shape ∈ completeShapes)
    (hk : kindOf .standard d.shape = some .update ∨ kindOf .standard d.shape = some .delete) :
    ∃ f condition front, Call.filter f ∈ calls ∧ f.WrittenAs condition ∧
      d.text = front ++ "WHERE " ++ condition ++ " " := by
  have hlast := filter_last_of_complete d.shape hc hk
  rw [Draft.shape, List.getLast?_map, Option.map_eq_some_iff] at hlast
  obtain ⟨⟨part, text⟩, hpart, rfl⟩ := hlast
  obtain ⟨parts, hparts⟩ := List.getLast?_eq_some_iff.1 hpart
  have hmem : (Part.clause .filter, text) ∈ d.parts := by simp [hparts]
  -- The last part has been written by a call, and that call was given a filter.
  obtain ⟨call, hcall, hclause, k, p, w, hw, rfl⟩ := Draft.exists_of_mem_parts h hmem
  obtain ⟨f, rfl⟩ := exists_of_clause?_eq_filter hclause
  obtain ⟨condition, hwritten, htext⟩ := exists_of_write_filter hw
  refine ⟨f, condition, String.join (parts.map (·.2)), hcall, hwritten, ?_⟩
  rw [Draft.text, hparts, htext]
  simp [String.append_assoc]

/-! ## The grammar -/

/-- Calls with usable arguments all succeed exactly if their parts begin a sentence; then the
statement renders exactly if the parts are a complete shape, to the texts of the calls in order
with the text appended last behind them. Whatever the calls, an UPDATE or a DELETE that renders
was given a condition, which stands in its text behind WHERE, with nothing but what is appended
after it. -/
theorem standard_grammar :
    (∀ calls : List Call, (∀ call ∈ calls, call.Valid) →
      ((∀ o ∈ new.outcomes calls, o.isOk = true) ↔ Begun (calls.filterMap Call.part?)) ∧
      (Begun (calls.filterMap Call.part?) →
        (((new.afterAll calls).outcome .statement).isOk = true ↔
          calls.filterMap Call.part? ∈ completeShapes) ∧
        ∀ r, (new.afterAll calls).outcome .statement = .ok r →
          ∃ d, Draft.ofCalls .standard calls = .ok d ∧
            r.answer = .text (d.text ++ (lastAppended calls).getD ""))) ∧
    ∀ (calls : List Call) (r : Response), (new.afterAll calls).outcome .statement = .ok r →
      (new.afterAll calls).kind = some .update ∨ (new.afterAll calls).kind = some .delete →
        ∃ f condition front, Call.filter f ∈ new.accepted calls ∧ f.WrittenAs condition ∧
          r.answer = .text (front ++ "WHERE " ++ condition ++ " " ++
            (lastAppended (new.accepted calls)).getD "") := by
  constructor
  · intro calls hv
    -- acceptance goes first, since the rest is about runs on which every call succeeds
    have hiff := outcomes_isOk_iff_begun hv
    refine ⟨hiff, fun hbegun => ?_⟩
    obtain ⟨d, htracks, hd⟩ := begun_of_run (run_of_outcomes (hiff.2 hbegun))
    constructor
    · rw [← Draft.shape_of_ofCalls htracks.draft]
      exact isOk_statement_iff htracks hd (isRendered_afterAll hv)
    · intro r hr
      obtain ⟨-, events, rfl⟩ := outcome_of_tracks htracks hd rfl hr
      exact ⟨d, htracks.draft, rfl⟩
  · intro calls r hr hk
    -- Calls that failed left nothing behind, so the run is that of the accepted calls.
    obtain ⟨d, htracks, hd⟩ := begun_of_run (run_accepted new calls)
    obtain ⟨hcomplete, events, rfl⟩ := outcome_of_tracks htracks hd rfl hr
    rw [htracks.agrees.kind, htracks.table_eq] at hk
    obtain ⟨f, condition, front, hcall, hwritten, htext⟩ :=
      exists_filter_of_complete htracks.draft hcomplete hk
    exact ⟨f, condition, front, hcall, hwritten, by rw [htext]⟩

/-- An UPDATE with texts appended before, between and behind its clauses. -/
def scattered : List Call :=
  [.append " LIMIT 1", .update (.name "t"), .append "", .set (.mapping [("id", .int 1)]),
    .filter (.tree (.eq "id" (.int 2))), .append ";"]

theorem scattered_appends_succeed :
    (∀ o ∈ new.outcomes scattered, o.isOk = true) ∧
      ∃ r, (new.afterAll scattered).outcome .statement = .ok r ∧
        ∃ f condition front, Call.filter f ∈ scattered ∧ f.WrittenAs condition ∧
          r.answer = .text (front ++ "WHERE " ++ condition ++ " " ++ ";") := by
  have hv : ∀ call ∈ scattered, call.Valid := by
    simp only [scattered, List.mem_cons, List.not_mem_nil, or_false, forall_eq_or_imp, forall_eq]
    exact ⟨trivial, ⟨_, rfl⟩, trivial, ⟨_, rfl⟩, ⟨_, rfl⟩, trivial⟩
  have hbegun : Begun (scattered.filterMap Call.part?) := by decide
  obtain ⟨hgrammar, hcondition⟩ := standard_grammar
  obtain ⟨haccepted, hstatement⟩ := hgrammar scattered hv
  refine ⟨haccepted.2 hbegun, ?_⟩
  have hok : ((new.afterAll scattered).outcome .statement).isOk = true :=
    (hstatement hbegun).1.2 (by decide)
  cases hr : (new.afterAll scattered).outcome .statement with
  | error e => simp [hr, Except.isOk, Except.toBool] at hok
  | ok r => exact ⟨r, rfl, hcondition scattered r hr (.inl rfl)⟩

end Builder

end BoundSql
