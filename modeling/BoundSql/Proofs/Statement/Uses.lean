import Mathlib.Logic.Relation
import BoundSql.Proofs.Statement.Runs
import BoundSql.Statement.Execution

/-!
# Uses

What a program can do with a builder: make a call, or run the statement on a database, which may
answer anything. For the builder a run is a call that asks for the statement, and a whole SELECT is
the calls for its clauses.

Main statement: `run_of_uses`. Whatever a program has done with a builder, there are calls that
succeed one after another and lead to the same builder.
-/

namespace BoundSql

/-- The calls that add the clauses of a whole SELECT. -/
def FindOptions.calls (o : FindOptions) : List Builder.Call :=
  [.select o.select, .fromTables o.tables] ++ o.filter.toList.map .filter ++
    o.append.toList.map .append

namespace Builder

/-- What one use of a builder leaves. -/
inductive Use (b : Builder) : Builder → Prop where
  | call (call : Call) : Use b (b.after call)
  | execute {σ : Type} (db : Database σ) (s : σ) : Use b (b.execute db s).builder
  | find {σ : Type} (db : Database σ) (s : σ) : Use b (b.find db s).builder
  | first {σ : Type} (db : Database σ) (s : σ) : Use b (b.first db s).builder
  | findAs {σ α : Type} (read : Row → Except Failure α) (db : Database σ) (s : σ) :
      Use b (b.findAs read db s).builder
  | firstAs {σ α : Type} (read : Row → Except Failure α) (db : Database σ) (s : σ) :
      Use b (b.firstAs read db s).builder
  | findWith {σ : Type} (o : FindOptions) (db : Database σ) (s : σ) :
      Use b (b.findWith o db s).builder

/-- What uses one after another can leave. -/
def Uses : Builder → Builder → Prop :=
  Relation.ReflTransGen Use

/-! ## Runs of databases -/

/-- The builder does not know what the database answers. -/
theorem builder_run {σ : Type} (b : Builder) (db : Database σ) (s : σ) (m : Method) :
    (b.run db s m).builder = b.after .statement := by
  have hstatement : apply .statement b = Edit.rendered (fun r => .text r.sql) b := rfl
  unfold run after
  rw [hstatement, rendered_apply]
  cases finish b <;> rfl

/-! ## Calls one after another -/

/-- Calls one after another, up to the first that fails. -/
def sequence : List Call → Edit Unit
  | [] => return
  | call :: rest => do
    let _ ← apply call
    sequence rest

theorem sequence_cons_apply (call : Call) (rest : List Call) (b : Builder) :
    sequence (call :: rest) b = match apply call b with
      | .ok _ b' => sequence rest b'
      | .error e b' => .error e b' := by
  rw [sequence, bind_apply]
  cases apply call b <;> rfl

/-- Calls that make a sequence succeed are a run without failures. -/
theorem run_of_sequence {calls : List Call} {b last : Builder}
    (h : sequence calls b = .ok () last) : Run b calls last := by
  induction calls generalizing b with
  | nil =>
    cases h
    exact .start
  | cons call rest ih =>
    rw [sequence_cons_apply] at h
    cases hcall : apply call b with
    | error e b' => simp [hcall] at h
    | ok r b' =>
      simp only [hcall] at h
      exact .cons hcall (ih h)

/-- Every call succeeds when they are made one after another. -/
def Accepts (b : Builder) (calls : List Call) : Prop :=
  ∀ outcome ∈ b.outcomes calls, outcome.isOk = true

instance (b : Builder) (calls : List Call) : Decidable (b.Accepts calls) :=
  inferInstanceAs (Decidable (∀ outcome ∈ b.outcomes calls, outcome.isOk = true))

/-- The outcome of the first call that fails. -/
def firstFailure? (b : Builder) (calls : List Call) : Option (Except QueryError Response) :=
  (b.outcomes calls).find? fun outcome => !outcome.isOk

theorem outcome_of_apply_ok {b b' : Builder} {call : Call} {r : Response}
    (h : apply call b = .ok r b') : b.outcome call = .ok r ∧ b.after call = b' := by
  simp [outcome, after, h]

theorem outcome_of_apply_error {b b' : Builder} {call : Call} {e : QueryError}
    (h : apply call b = .error e b') : b.outcome call = .error e := by
  simp [outcome, h]

/-- Calls that are all accepted make a sequence that succeeds. -/
theorem sequence_of_accepts {calls : List Call} {b : Builder} (h : b.Accepts calls) :
    sequence calls b = .ok () (b.afterAll calls) := by
  induction calls generalizing b with
  | nil => rfl
  | cons call rest ih =>
    obtain ⟨hfirst, hrest⟩ := List.forall_mem_cons.1 h
    rw [sequence_cons_apply]
    cases hcall : apply call b with
    | ok r b' =>
      obtain ⟨-, rfl⟩ := outcome_of_apply_ok hcall
      exact ih hrest
    -- The first outcome would be a failure.
    | error e b' =>
      rw [outcome_of_apply_error hcall] at hfirst
      cases hfirst

/-- Calls that are not all accepted have a first one that fails. -/
theorem exists_firstFailure? {calls : List Call} {b : Builder} (h : ¬ b.Accepts calls) :
    ∃ e, b.firstFailure? calls = some (.error e) := by
  cases hfirst : b.firstFailure? calls with
  | none =>
    -- No outcome is a failure, so all are accepted after all.
    have hnone := List.find?_eq_none.1 hfirst
    exact absurd (fun outcome hmem => by simpa using hnone outcome hmem) h
  | some outcome =>
    have hfails := List.find?_some hfirst
    cases outcome with
    | ok r => cases hfails
    | error e => exact ⟨e, rfl⟩

/-- A sequence fails with the error of the first call that fails. -/
theorem sequence_of_firstFailure? {calls : List Call} {b : Builder} {e : QueryError}
    (h : b.firstFailure? calls = some (.error e)) : ∃ b', sequence calls b = .error e b' := by
  induction calls generalizing b with
  | nil => cases h
  | cons call rest ih =>
    unfold firstFailure? at h
    rw [outcomes, List.find?_cons] at h
    rw [sequence_cons_apply]
    cases hcall : apply call b with
    -- The first call succeeds, so the first failure is among the others.
    | ok r b' =>
      obtain ⟨houtcome, rfl⟩ := outcome_of_apply_ok hcall
      rw [houtcome] at h
      exact ih h
    | error e' b' =>
      rw [outcome_of_apply_error hcall] at h
      cases h
      exact ⟨b', rfl⟩

/-! ## Whole SELECTs -/

/-- A call that only edits goes on like its edit. -/
theorem done_bind (edit next : Edit Unit) :
    (do let _ ← Edit.done edit; next) = (do edit; next) := by
  funext b
  simp only [Edit.done, bind_apply]
  cases edit b <;> rfl

/-- Adding the clauses of a whole SELECT is making its calls. -/
theorem selectAll_eq_sequence (o : FindOptions) : selectAll o = sequence o.calls := by
  obtain ⟨columns, tables, f, sql⟩ := o
  cases f <;> cases sql <;>
    simp only [selectAll, FindOptions.calls, Option.toList, List.map_nil, List.map_cons,
      List.append_nil, List.cons_append, List.nil_append, sequence, apply, done_bind,
      bind_pure_unit]

/-- A whole SELECT that is accepted is its calls, which all succeed. -/
theorem run_of_selectAll {o : FindOptions} {b staged : Builder}
    (h : selectAll o b = .ok () staged) : Run b o.calls staged := by
  rw [selectAll_eq_sequence] at h
  exact run_of_sequence h

/-! ## Runs of a program -/

/-- Making calls is using the builder. -/
theorem uses_afterAll (b : Builder) (calls : List Call) : Uses b (b.afterAll calls) := by
  induction calls generalizing b with
  | nil => exact .refl
  | cons call rest ih => exact .head (.call call) (ih (b.after call))

theorem Run.trans {b b' last : Builder} {calls more : List Call} (h : Run b calls b')
    (hmore : Run b' more last) : Run b (calls ++ more) last := by
  induction hmore with
  | start =>
    rw [List.append_nil]
    exact h
  | call _ hcall ih =>
    rw [← List.append_assoc]
    exact .call ih hcall

/-- Whether or not a call succeeds, calls that do lead to the builder after it. -/
theorem run_after (b : Builder) (call : Call) : ∃ calls, Run b calls (b.after call) :=
  ⟨_, run_accepted b [call]⟩

/-- Whatever the use, there are calls that succeed and leave the same. -/
theorem run_of_use {b b' : Builder} (h : Use b b') : ∃ calls, Run b calls b' := by
  cases h with
  | call call => exact run_after b call
  | execute db s => exact builder_run b db s .execute ▸ run_after b .statement
  | find db s => exact builder_run b db s .queryMany ▸ run_after b .statement
  | first db s => exact builder_run b db s .queryOne ▸ run_after b .statement
  | findAs read db s => exact builder_run b db s .queryMany ▸ run_after b .statement
  | firstAs read db s => exact builder_run b db s .queryOne ▸ run_after b .statement
  | findWith o db s =>
    unfold findWith
    cases hstaged : selectAll o b with
    | error e b₁ => exact ⟨[], .start⟩
    | ok u staged =>
      have hrun : Run b o.calls staged := run_of_selectAll hstaged
      obtain ⟨calls, hcalls⟩ := run_after staged .statement
      have hleft : (staged.find db s).builder = staged.after .statement :=
        builder_run staged db s .queryMany
      rw [← hleft] at hcalls
      exact ⟨_, hrun.trans hcalls⟩

/-- Whatever a program does with a builder, there are calls that succeed and lead to the same. -/
theorem run_of_uses {b b' : Builder} (h : Uses b b') : ∃ calls, Run b calls b' := by
  induction h with
  | refl => exact ⟨[], .start⟩
  | tail _ huse ih =>
    obtain ⟨calls, hcalls⟩ := ih
    obtain ⟨more, hmore⟩ := run_of_use huse
    exact ⟨_, hcalls.trans hmore⟩

end Builder

end BoundSql
