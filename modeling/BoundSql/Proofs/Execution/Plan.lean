import BoundSql.Proofs.Statement.Uses
import BoundSql.Repository

/-!
# Plans

Before a database is asked, it is settled what an execution will ask it. A `Plan` is what is
settled: the result, if no database is needed, or else the one request and how its answer is read.
A statement has a plan for each way to run it, and so has every operation of a repository.

Main statements: `effect_run`, `effect_findWith` and the lemmas about repositories, an execution
carries out its plan; `carryOut_recording`, carrying out a plan makes its request and no other.
-/

namespace BoundSql

/-- What an execution comes down to before a database is asked, with the events of its own. -/
inductive Plan (α : Type) where
  /-- No database is asked. -/
  | done (own : List Event) (result : Except Failure α)
  /-- The database is asked once, and its answer is read. -/
  | ask (own : List Event) (r : Request) (read : r.Answer → Except Failure α)

namespace Plan

variable {σ α β : Type}

/-- The events that are reported before the request. -/
def own : Plan α → List Event
  | done own _ => own
  | ask own _ _ => own

/-- The request, if there is one. -/
def request? : Plan α → Option Request
  | done _ _ => none
  | ask _ r _ => some r

/-- Makes the request and reads the answer. -/
def carryOut (p : Plan α) (db : Database σ) (s : σ) : Effect σ α :=
  match p with
  | done own result => ⟨result, s, own⟩
  | ask own r read =>
    let reply := db.answer r s
    ⟨reply.result.bind read, reply.state, own ++ reply.events⟩

/-- The plan with its result computed further. -/
def mapResult (f : α → Except Failure β) : Plan α → Plan β
  | done own result => done own (result.bind f)
  | ask own r read => ask own r fun a => (read a).bind f

/-- Computing the result further changes neither the state nor the events. -/
theorem carryOut_mapResult (f : α → Except Failure β) (p : Plan α) (db : Database σ) (s : σ) :
    (p.mapResult f).carryOut db s =
      ⟨(p.carryOut db s).result.bind f, (p.carryOut db s).state, (p.carryOut db s).events⟩ := by
  cases p with
  | done own result => rfl
  | ask own r read =>
    simp only [mapResult, carryOut]
    cases (db.answer r s).result <;> rfl

@[simp]
theorem request?_mapResult (f : α → Except Failure β) (p : Plan α) :
    (p.mapResult f).request? = p.request? := by
  cases p <;> rfl

@[simp]
theorem own_mapResult (f : α → Except Failure β) (p : Plan α) : (p.mapResult f).own = p.own := by
  cases p <;> rfl

/-- Of all requests only that of the plan arrives at the database. -/
theorem carryOut_recording (p : Plan α) (db : Database σ) (s : σ) (arrived : List Request) :
    p.carryOut db.recording (s, arrived) =
      ⟨(p.carryOut db s).result, ((p.carryOut db s).state, arrived ++ p.request?.toList),
        (p.carryOut db s).events⟩ := by
  cases p with
  | done own result => simp [carryOut, request?]
  | ask own r read => rfl

end Plan

/-! ## Operations

An operation is given its database and the state of it. -/

section Operations

variable {α : Type}

/-- Whatever the database and its state, the operation makes this one request and goes by the answer
alone. -/
structure AsksOnce (op : (σ : Type) → Database σ → σ → Effect σ α) (r : Request)
    (read : r.Answer → Except Failure α) : Prop where
  requests : ∀ {σ : Type} (db : Database σ) (s : σ),
    (op (σ × List Request) db.recording (s, [])).state.2 = [r]
  result : ∀ {σ : Type} (db : Database σ) (s : σ),
    (op σ db s).result = (db.answer r s).result.bind read
  state : ∀ {σ : Type} (db : Database σ) (s : σ), (op σ db s).state = (db.answer r s).state

/-- Whatever the database and its state, the operation fails and leaves the database alone. -/
def Refuses (op : (σ : Type) → Database σ → σ → Effect σ α) (f : Failure) : Prop :=
  ∀ {σ : Type} (db : Database σ) (s : σ), op σ db s = ⟨.error f, s, []⟩

/-- An operation that carries out a plan with a request makes that request. -/
theorem AsksOnce.of_plan {op : (σ : Type) → Database σ → σ → Effect σ α} {p : Plan α}
    {own : List Event} {r : Request} {read : r.Answer → Except Failure α}
    (h : ∀ {σ : Type} (db : Database σ) (s : σ), op σ db s = p.carryOut db s)
    (hp : p = .ask own r read) : AsksOnce op r read := by
  subst hp
  refine ⟨?_, ?_, ?_⟩
  · intro σ db s
    rw [h, Plan.carryOut_recording]
    rfl
  · intro σ db s
    rw [h]
    rfl
  · intro σ db s
    rw [h]
    rfl

/-- One run is enough to see which request is made. The answers to it are only known to be of one
type once the requests are the same. -/
theorem AsksOnce.of_seen {op : (σ : Type) → Database σ → σ → Effect σ α} {m : Method}
    {text seen : String} {params seenParams : Params}
    {read : (Request.run m text params).Answer → Except Failure α}
    (h : AsksOnce op (.run m text params) read) {σ : Type} {db : Database σ} {s : σ}
    (hseen : (op (σ × List Request) db.recording (s, [])).state.2 = [.run m seen seenParams]) :
    AsksOnce op (.run m seen seenParams) read := by
  have hsame := hseen.symm.trans (h.requests db s)
  simp only [List.cons.injEq, Request.run.injEq, and_true, true_and] at hsame
  obtain ⟨rfl, rfl⟩ := hsame
  exact h

end Operations

/-! ## Statements -/

namespace Builder

variable {σ α : Type}

/-- What running a statement comes down to. -/
def plan (b : Builder) (m : Method) : Plan m.Answer :=
  match finish b with
  | .error e _ => .done [] (.error (.query e))
  | .ok r _ => .ask r.events (.run m r.sql r.params) .ok

/-- Running a statement carries out its plan. -/
theorem effect_run (b : Builder) (db : Database σ) (s : σ) (m : Method) :
    (b.run db s m).effect = (b.plan m).carryOut db s := by
  unfold run plan
  -- a statement that cannot be rendered asks nothing
  cases finish b with
  | error e b' => rfl
  | ok r b' =>
    simp only [Plan.carryOut, Outcome.effect]
    cases (db.answer (.run m r.sql r.params) s).result <;> rfl

/-- What reading all rows as records comes down to. -/
def findAsPlan (b : Builder) (read : Row → Except Failure α) : Plan (List α) :=
  (b.plan .queryMany).mapResult fun rows => rows.mapM read

/-- Reading rows as records carries out its plan. -/
theorem effect_findAs (b : Builder) (read : Row → Except Failure α) (db : Database σ) (s : σ) :
    (b.findAs read db s).effect = (b.findAsPlan read).carryOut db s := by
  rw [findAsPlan, Plan.carryOut_mapResult, ← effect_run]
  rfl

/-- The first row, if there is one, as a record. -/
def readFirst (read : Row → Except Failure α) : Option Row → Except Failure (Option α)
  | none => .ok none
  | some row => (read row).map some

/-- What reading the first row as a record comes down to. -/
def firstAsPlan (b : Builder) (read : Row → Except Failure α) : Plan (Option α) :=
  (b.plan .queryOne).mapResult (readFirst read)

/-- Reading the first row as a record carries out its plan. -/
theorem effect_firstAs (b : Builder) (read : Row → Except Failure α) (db : Database σ) (s : σ) :
    (b.firstAs read db s).effect = (b.firstAsPlan read).carryOut db s := by
  rw [firstAsPlan, Plan.carryOut_mapResult, ← effect_run]
  rfl

/-- What a whole SELECT comes down to. -/
def findWithPlan (b : Builder) (o : FindOptions) : Plan (List Row) :=
  match selectAll o b with
  | .error e _ => .done [] (.error (.query e))
  | .ok _ staged => staged.plan .queryMany

/-- The builder that a whole SELECT leaves. -/
def afterFindWith (b : Builder) (o : FindOptions) : Builder :=
  match selectAll o b with
  | .error _ _ => b
  | .ok _ staged => staged.after .statement

/-- A whole SELECT carries out its plan. -/
theorem effect_findWith (b : Builder) (o : FindOptions) (db : Database σ) (s : σ) :
    (b.findWith o db s).effect = (b.findWithPlan o).carryOut db s := by
  unfold findWith findWithPlan
  cases selectAll o b with
  | error e b' => rfl
  | ok u staged => exact effect_run staged db s .queryMany

/-- The builder that a whole SELECT leaves does not hang on the database. -/
theorem builder_findWith (b : Builder) (o : FindOptions) (db : Database σ) (s : σ) :
    (b.findWith o db s).builder = b.afterFindWith o := by
  unfold findWith afterFindWith
  cases selectAll o b with
  -- the clauses were added to a copy, which is dropped
  | error e b' => rfl
  | ok u staged => exact builder_run staged db s .queryMany

end Builder

/-! ## Repositories -/

namespace Repository

open Builder (Edit apply done_bind)

variable {σ α : Type}

/-- A SELECT by key is three calls on a new builder. -/
theorem selectWhere_eq_sequence (r : Repository) (c : Condition) :
    r.selectWhere c =
      Builder.sequence [.select .all, .fromTables [r.target], .filter (.tree c)] := by
  simp only [selectWhere, selectStatement, Builder.sequence, apply, done_bind, bind_pure_unit,
    bind_assoc]

/-- An INSERT of an entity is two calls on a new builder. -/
theorem insertStatement_eq_sequence (r : Repository) (e : Entity) :
    r.insertStatement e = Builder.sequence [.insertInto r.target, .values (.entity e)] := by
  simp only [insertStatement, Builder.sequence, apply, done_bind, bind_pure_unit]

/-- An UPDATE of an entity is three calls on a new builder. -/
theorem updateStatement_eq_sequence (r : Repository) (e : Entity) (c : Condition) :
    r.updateStatement e c =
      Builder.sequence [.update r.target, .set (.entity e), .filter (.tree c)] := by
  simp only [updateStatement, Builder.sequence, apply, done_bind, bind_pure_unit]

/-- A DELETE by key is three calls on a new builder. -/
theorem deleteStatement_eq_sequence (r : Repository) (c : Condition) :
    r.deleteStatement c =
      Builder.sequence [.delete, .fromTables [r.target], .filter (.tree c)] := by
  simp only [deleteStatement, Builder.sequence, apply, done_bind, bind_pure_unit]

/-- What submitting a statement comes down to. -/
def submitPlan (statement : Edit Unit) (next : Builder → Plan α) : Plan α :=
  match statement .new with
  | .error e _ => .done [] (.error (.query e))
  | .ok _ b => next b

/-- Submitting a statement carries out its plan, if running it does. -/
theorem submit_eq_carryOut (statement : Edit Unit) {run : Builder → Outcome σ α}
    {next : Builder → Plan α} {db : Database σ} {s : σ}
    (h : ∀ b, (run b).effect = (next b).carryOut db s) :
    submit statement s run = (submitPlan statement next).carryOut db s := by
  unfold submit submitPlan
  cases statement .new with
  | error e b => rfl
  | ok u b => exact h b

/-- What reading every row comes down to. -/
def allPlan (r : Repository) : Plan (List Entity) :=
  submitPlan r.selectStatement fun b => b.findAsPlan r.ofRow

theorem all_eq_carryOut (r : Repository) (db : Database σ) (s : σ) :
    r.all db s = r.allPlan.carryOut db s :=
  submit_eq_carryOut _ fun b => b.effect_findAs r.ofRow db s

/-- The comparisons of key columns with their values. -/
def keyComparisons (keys : List (String × Value)) : List Condition :=
  keys.map fun (column, value) => .eq column value

/-- What looking a row up comes down to. -/
def getPlan (r : Repository) (keys : List (String × Value)) : Plan (Option Entity) :=
  if keys.isEmpty then .done [] (.error (.entity ("no key given to look up a row of " ++ r.table)))
  else
    submitPlan (r.selectWhere (combine (keyComparisons keys))) fun b => b.firstAsPlan r.ofRow

/-- Looking a row up carries out its plan. -/
theorem get_eq_carryOut (r : Repository) (keys : List (String × Value)) (db : Database σ) (s : σ) :
    r.get keys db s = (r.getPlan keys).carryOut db s := by
  unfold get getPlan
  -- without a key there is nothing to look up, and the plan says so
  by_cases hempty : keys.isEmpty = true
  · rw [if_pos hempty, if_pos hempty]
    rfl
  · rw [if_neg hempty, if_neg hempty]
    exact submit_eq_carryOut _ fun b => b.effect_firstAs r.ofRow db s

/-- What inserting an entity comes down to. -/
def addPlan (r : Repository) (e : Entity) : Plan Nat :=
  submitPlan (r.insertStatement e) fun b => b.plan .execute

theorem add_eq_carryOut (r : Repository) (e : Entity) (db : Database σ) (s : σ) :
    r.add e db s = (r.addPlan e).carryOut db s :=
  submit_eq_carryOut _ fun b => b.effect_run db s .execute

/-- What a statement comes down to that is built on the key of an entity. -/
def keyedPlan (e : Entity) (statement : Condition → Edit Unit) : Plan Nat :=
  match keyCondition e with
  | .error f => .done [] (.error f)
  | .ok c => submitPlan (statement c) fun b => b.plan .execute

/-- What updating the row of an entity comes down to. -/
def updatePlan (r : Repository) (e : Entity) : Plan Nat :=
  keyedPlan e (r.updateStatement e)

/-- Updating the row of an entity carries out its plan. -/
theorem update_eq_carryOut (r : Repository) (e : Entity) (db : Database σ) (s : σ) :
    r.update e db s = (r.updatePlan e).carryOut db s := by
  unfold update updatePlan keyedPlan
  cases keyCondition e with
  | error f => rfl
  | ok c => exact submit_eq_carryOut _ fun b => b.effect_run db s .execute

/-- What deleting the row of an entity comes down to. -/
def deletePlan (r : Repository) (e : Entity) : Plan Nat :=
  keyedPlan e r.deleteStatement

/-- Deleting the row of an entity carries out its plan. -/
theorem delete_eq_carryOut (r : Repository) (e : Entity) (db : Database σ) (s : σ) :
    r.delete e db s = (r.deletePlan e).carryOut db s := by
  unfold delete deletePlan keyedPlan
  cases keyCondition e with
  | error f => rfl
  | ok c => exact submit_eq_carryOut _ fun b => b.effect_run db s .execute

/-- What saving an entity comes down to. -/
def savePlan (r : Repository) (e : Entity) : Plan Nat :=
  match e.primaryKeys.length, (unsetKeys e).length with
  | 0, _ => .done [] (.error (.entity ("entity of " ++ r.table ++ " has no primary key")))
  | _, 0 => r.updatePlan e
  | 1, 1 => r.addPlan e
  | _, _ =>
    .done [] (.error (.entity
      ("cannot add an entity of " ++ r.table ++ " with a partially set composite primary key")))

/-- Saving an entity carries out its plan. -/
theorem save_eq_carryOut (r : Repository) (e : Entity) (db : Database σ) (s : σ) :
    r.save e db s = (r.savePlan e).carryOut db s := by
  unfold save savePlan
  generalize e.primaryKeys.length = keys
  generalize (unsetKeys e).length = unset
  -- the cases are those of the plan, the single and the composite key told apart
  match keys, unset with
  | 0, _ => rfl
  | 1, 0 | _ + 2, 0 => exact r.update_eq_carryOut e db s
  | 1, 1 => exact r.add_eq_carryOut e db s
  | 1, _ + 2 => rfl
  | _ + 2, _ + 1 => rfl

/-- What asking for the id of the last row comes down to. -/
def lastInsertIdPlan : Plan Int64 :=
  .ask [] .lastInsertId .ok

theorem lastInsertId_eq_carryOut (db : Database σ) (s : σ) :
    lastInsertId db s = lastInsertIdPlan.carryOut db s := by
  simp only [lastInsertId, lastInsertIdPlan, Plan.carryOut]
  cases (db.answer .lastInsertId s).result <;> rfl

end Repository

end BoundSql
