import BoundSql.Proofs.Execution.Layers
import BoundSql.Proofs.Execution.Plan

/-!
# Sessions

A session is a list of actions that a program performs one after another: it changes builders, runs
their statements on a database and uses repositories. What an action asks the database is settled by
the builders alone, so that what a session asks does not hang on what is answered.

Main statements: `perform_wrapAll`, layers around the database change nothing of a session but its
log; `state_perform_recording`, the requests that arrive are those of its transcript.
-/

namespace BoundSql

/-- The builders of a program, by number. -/
abbrev Builders := Nat → Builder

namespace Builders

/-- The builders with another one under a number. -/
def put (bs : Builders) (i : Nat) (b : Builder) : Builders :=
  fun j => if j = i then b else bs j

/-- The builders with the values of their bindings hidden. -/
def redacted (bs : Builders) : Builders :=
  fun i => (bs i).redacted

theorem redacted_put (bs : Builders) (i : Nat) (b : Builder) :
    (bs.put i b).redacted = bs.redacted.put i b.redacted := by
  funext j
  unfold redacted put
  by_cases h : j = i
  · rw [if_pos h, if_pos h]
  · rw [if_neg h, if_neg h]

end Builders

/-! ## Actions -/

/-- What a program can do, by the type of what it gets. -/
inductive Action : Type → Type 1 where
  | call (i : Nat) (call : Builder.Call) : Action Builder.Response
  | run (i : Nat) (m : Method) : Action m.Answer
  | findAs {α : Type} (i : Nat) (read : Row → Except Failure α) : Action (List α)
  | firstAs {α : Type} (i : Nat) (read : Row → Except Failure α) : Action (Option α)
  | findWith (i : Nat) (o : FindOptions) : Action (List Row)
  | all (r : Repository) : Action (List Entity)
  | get (r : Repository) (keys : List (String × Value)) : Action (Option Entity)
  | add (r : Repository) (e : Entity) : Action Nat
  | update (r : Repository) (e : Entity) : Action Nat
  | delete (r : Repository) (e : Entity) : Action Nat
  | save (r : Repository) (e : Entity) : Action Nat
  | lastInsertId : Action Int64

/-- What an action leaves. -/
structure Performed (σ α : Type) where
  result : Except Failure α
  builders : Builders
  state : σ
  events : List Event

/-- What is left with the builder of an outcome under its number. -/
def Outcome.performed {σ α : Type} (o : Outcome σ α) (bs : Builders) (i : Nat) : Performed σ α :=
  ⟨o.result, bs.put i o.builder, o.state, o.events⟩

/-- What is left where no builder of the program is used. -/
def Effect.performed {σ α : Type} (e : Effect σ α) (bs : Builders) : Performed σ α :=
  ⟨e.result, bs, e.state, e.events⟩

namespace Action

variable {σ α : Type}

/-- Performs an action on a database in some state. -/
def perform (db : Database σ) (bs : Builders) (s : σ) : Action α → Performed σ α
  | .call i c =>
    match Builder.apply c (bs i) with
    | .ok r b => ⟨.ok r, bs.put i b, s, r.events⟩
    | .error e b => ⟨.error (.query e), bs.put i b, s, []⟩
  | .run i m => ((bs i).run db s m).performed bs i
  | .findAs i read => ((bs i).findAs read db s).performed bs i
  | .firstAs i read => ((bs i).firstAs read db s).performed bs i
  | .findWith i o => ((bs i).findWith o db s).performed bs i
  | .all r => (r.all db s).performed bs
  | .get r keys => (r.get keys db s).performed bs
  | .add r e => (r.add e db s).performed bs
  | .update r e => (r.update e db s).performed bs
  | .delete r e => (r.delete e db s).performed bs
  | .save r e => (r.save e db s).performed bs
  | .lastInsertId => (Repository.lastInsertId db s).performed bs

/-- What an action comes down to before the database is asked. -/
def plan (bs : Builders) : Action α → Plan α
  | .call i c =>
    match Builder.apply c (bs i) with
    | .ok r _ => .done r.events (.ok r)
    | .error e _ => .done [] (.error (.query e))
  | .run i m => (bs i).plan m
  | .findAs i read => (bs i).findAsPlan read
  | .firstAs i read => (bs i).firstAsPlan read
  | .findWith i o => (bs i).findWithPlan o
  | .all r => r.allPlan
  | .get r keys => r.getPlan keys
  | .add r e => r.addPlan e
  | .update r e => r.updatePlan e
  | .delete r e => r.deletePlan e
  | .save r e => r.savePlan e
  | .lastInsertId => Repository.lastInsertIdPlan

/-- The builders after an action. -/
def leaves (bs : Builders) : Action α → Builders
  | .call i c => bs.put i ((bs i).after c)
  | .run i _ | .findAs i _ | .firstAs i _ => bs.put i ((bs i).after .statement)
  | .findWith i o => bs.put i ((bs i).afterFindWith o)
  | _ => bs

/-- An action that carries out a plan. -/
theorem performed_of_effect {o : Outcome σ α} {p : Plan α} {b : Builder} {db : Database σ} {s : σ}
    (heffect : o.effect = p.carryOut db s) (hbuilder : o.builder = b) (bs : Builders) (i : Nat) :
    o.performed bs i = (p.carryOut db s).performed (bs.put i b) := by
  rw [← heffect, ← hbuilder]
  rfl

/-- Performing an action is carrying out its plan, and the builders after it are settled as well. -/
theorem perform_eq (db : Database σ) (bs : Builders) (s : σ) (a : Action α) :
    a.perform db bs s = ((a.plan bs).carryOut db s).performed (a.leaves bs) := by
  cases a with
  | call i c =>
    simp only [perform, plan, leaves, Builder.after]
    cases Builder.apply c (bs i) <;> rfl
  | run i m =>
    exact performed_of_effect ((bs i).effect_run db s m) ((bs i).builder_run db s m) bs i
  | findAs i read =>
    exact performed_of_effect ((bs i).effect_findAs read db s)
      ((bs i).builder_run db s .queryMany) bs i
  | firstAs i read =>
    exact performed_of_effect ((bs i).effect_firstAs read db s)
      ((bs i).builder_run db s .queryOne) bs i
  | findWith i o =>
    exact performed_of_effect ((bs i).effect_findWith o db s) ((bs i).builder_findWith o db s) bs i
  | all r => exact congrArg (·.performed bs) (r.all_eq_carryOut db s)
  | get r keys => exact congrArg (·.performed bs) (r.get_eq_carryOut keys db s)
  | add r e => exact congrArg (·.performed bs) (r.add_eq_carryOut e db s)
  | update r e => exact congrArg (·.performed bs) (r.update_eq_carryOut e db s)
  | delete r e => exact congrArg (·.performed bs) (r.delete_eq_carryOut e db s)
  | save r e => exact congrArg (·.performed bs) (r.save_eq_carryOut e db s)
  | lastInsertId => exact congrArg (·.performed bs) (Repository.lastInsertId_eq_carryOut db s)

end Action

/-! ## Sessions -/

/-- Actions one after another, each with its type. -/
abbrev Session := List (Σ α : Type, Action α)

/-- What a session leaves. -/
structure Trail (σ : Type) where
  results : List (Σ α : Type, Except Failure α)
  builders : Builders
  state : σ
  events : List Event

namespace Session

variable {σ : Type}

/-- Performs the actions one after another; a failure does not end the session. -/
def perform (db : Database σ) : Session → Builders → σ → Trail σ
  | [], bs, s => ⟨[], bs, s, []⟩
  | ⟨α, a⟩ :: rest, bs, s =>
    let first := a.perform db bs s
    let later := perform db rest first.builders first.state
    ⟨⟨α, first.result⟩ :: later.results, later.builders, later.state, first.events ++ later.events⟩

end Session

/-! ## Transcripts -/

/-- What happens when an action is performed: the events before the database is asked, the request,
if there is one, and the events that the database itself reports. -/
structure Exchange where
  own : List Event
  request? : Option Request
  inner : List Event

namespace Exchange

/-- What layers report of an exchange. -/
def reported (layers : List Database.Layer) (x : Exchange) : List Event :=
  x.request?.toList.flatMap (Database.layerEvents layers)

/-- The events of an exchange that goes through layers. -/
def events (layers : List Database.Layer) (x : Exchange) : List Event :=
  x.own ++ x.reported layers ++ x.inner

end Exchange

namespace Plan

variable {σ α : Type}

/-- What happens when a plan is carried out. -/
def exchange (p : Plan α) (db : Database σ) (s : σ) : Exchange where
  own := p.own
  request? := p.request?
  inner := p.request?.toList.flatMap fun r => (db.answer r s).events

/-- Layers change nothing but the events, which they add to behind those before the request. -/
theorem carryOut_wrapAll (p : Plan α) (db : Database σ) (layers : List Database.Layer) (s : σ) :
    p.carryOut (db.wrapAll layers) s =
      { p.carryOut db s with events := (p.exchange db s).events layers } := by
  cases p with
  | done own result =>
    simp [carryOut, exchange, Exchange.events, Exchange.reported, Plan.own, request?]
  | ask own r read =>
    simp [carryOut, exchange, Exchange.events, Exchange.reported, Plan.own, request?,
      Database.answer_wrapAll]

end Plan

namespace Session

variable {σ : Type}

/-- What happens in a session. -/
def transcript (db : Database σ) : Session → Builders → σ → List Exchange
  | [], _, _ => []
  | ⟨_, a⟩ :: rest, bs, s =>
    (a.plan bs).exchange db s ::
      transcript db rest (a.perform db bs s).builders (a.perform db bs s).state

/-- Results, builders and states are those without layers, and the events are those of the exchanges
through the layers. -/
theorem perform_wrapAll (db : Database σ) (layers : List Database.Layer) (session : Session)
    (bs : Builders) (s : σ) :
    session.perform (db.wrapAll layers) bs s =
      { session.perform db bs s with
        events := (session.transcript db bs s).flatMap (Exchange.events layers) } := by
  induction session generalizing bs s with
  | nil => rfl
  | cons first rest ih =>
    obtain ⟨α, a⟩ := first
    -- The first action leaves the same builders and state, from which the rest goes on.
    simp only [perform, transcript, Action.perform_eq, Plan.carryOut_wrapAll, Effect.performed, ih,
      List.flatMap_cons]

/-- What arrives at the database are the requests of the exchanges, in their order. -/
theorem state_perform_recording (db : Database σ) (session : Session) (bs : Builders) (s : σ)
    (arrived : List Request) :
    (session.perform db.recording bs (s, arrived)).state =
      ((session.perform db bs s).state,
        arrived ++ (session.transcript db bs s).filterMap Exchange.request?) := by
  induction session generalizing bs s arrived with
  | nil => simp [perform, transcript]
  | cons first rest ih =>
    obtain ⟨α, a⟩ := first
    simp only [perform, transcript, Action.perform_eq, Plan.carryOut_recording, Effect.performed,
      ih, Plan.exchange]
    cases (a.plan bs).request? <;> simp

end Session

end BoundSql
