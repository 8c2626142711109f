import Mathlib.Data.List.Basic
import BoundSql.Proofs.Execution.Session

/-!
# Secrecy of logs

What a session reports, before its requests and by the layers around its database, does not hang on
values: redacting a session changes neither the events before a request nor what of the request is
reported.

Main statement: `layers_are_transparent_and_secret`. Layers around a database change nothing of a
session but its log, to which every logging layer adds one event for each statement on its way in,
and two sessions that differ in values only have the same log.
-/

namespace BoundSql

/-! ## Plans -/

namespace Plan

variable {α β : Type}

/-- What a plan lets a log see: the events before the request, and the request without values. -/
def seen (p : Plan α) : List Event × Option Request :=
  (p.own, p.request?.map Request.redacted)

/-- What is made of the answer to a request is not seen. -/
@[simp]
theorem seen_mapResult (f : α → Except Failure β) (p : Plan α) :
    (p.mapResult f).seen = p.seen := by
  simp [seen]

end Plan

namespace Builder

variable {α : Type}

/-- What running a statement lets a log see does not hang on the values bound. -/
theorem seen_plan_redacted (b : Builder) (m : Method) :
    (b.redacted.plan m).seen = (b.plan m).seen := by
  unfold plan
  rw [finish_redacted]
  cases finish b with
  | error e b' => rfl
  | ok r b' =>
    -- the request is redacted twice, which is the same as once
    have hparams : r.redacted.params.redacted = r.params.redacted := r.params.redacted_redacted
    simp only [Plan.seen, Plan.own, Plan.request?, Option.map_some, Request.redacted, hparams]
    rfl

/-- Reading rows as records adds nothing that is seen. -/
theorem seen_findAsPlan_redacted (b : Builder) (read : Row → Except Failure α) :
    (b.redacted.findAsPlan read).seen = (b.findAsPlan read).seen := by
  rw [findAsPlan, findAsPlan, Plan.seen_mapResult, Plan.seen_mapResult, seen_plan_redacted]

theorem seen_firstAsPlan_redacted (b : Builder) (read : Row → Except Failure α) :
    (b.redacted.firstAsPlan read).seen = (b.firstAsPlan read).seen := by
  rw [firstAsPlan, firstAsPlan, Plan.seen_mapResult, Plan.seen_mapResult, seen_plan_redacted]

/-- Redacted calls lead a redacted builder where the calls lead the builder. -/
theorem sequence_redacted (calls : List Call) (b : Builder) :
    sequence (calls.map Call.redacted) b.redacted = match sequence calls b with
      | .ok u b' => .ok u b'.redacted
      | .error e b' => .error e b'.redacted := by
  induction calls generalizing b with
  | nil => rfl
  | cons call rest ih =>
    rw [List.map_cons, sequence_cons_apply, sequence_cons_apply, apply_redacted]
    cases apply call b with
    | ok r b' => exact ih b'
    | error e b' => rfl

end Builder

/-- The options with the values of the filter hidden. -/
def FindOptions.redacted (o : FindOptions) : FindOptions :=
  { o with filter := o.filter.map Filter.redacted }

/-- Redacted options make the redacted calls. -/
theorem FindOptions.calls_redacted (o : FindOptions) :
    o.redacted.calls = o.calls.map Builder.Call.redacted := by
  obtain ⟨columns, tables, f, sql⟩ := o
  cases f <;> cases sql <;> rfl

namespace Builder

/-- The calls of a whole SELECT lead a redacted builder where they lead the builder. -/
theorem selectAll_redacted (o : FindOptions) (b : Builder) :
    selectAll o.redacted b.redacted = match selectAll o b with
      | .ok u b' => .ok u b'.redacted
      | .error e b' => .error e b'.redacted := by
  rw [selectAll_eq_sequence, selectAll_eq_sequence, FindOptions.calls_redacted, sequence_redacted]

theorem seen_findWithPlan_redacted (b : Builder) (o : FindOptions) :
    (b.redacted.findWithPlan o.redacted).seen = (b.findWithPlan o).seen := by
  unfold findWithPlan
  rw [selectAll_redacted]
  cases selectAll o b with
  | ok u staged => exact staged.seen_plan_redacted .queryMany
  | error e b' => rfl

/-- A whole SELECT with hidden values leaves the builder with hidden values. -/
theorem afterFindWith_redacted (b : Builder) (o : FindOptions) :
    b.redacted.afterFindWith o.redacted = (b.afterFindWith o).redacted := by
  unfold afterFindWith
  rw [selectAll_redacted]
  cases selectAll o b with
  | ok u staged => exact after_redacted staged .statement
  | error e b' => rfl

end Builder

/-! ## Entities -/

/-- The entity with nothing left of its values but which are null. -/
def Entity.redacted (e : Entity) : Entity :=
  { e with columns := e.columns.mapValues Value.nullOrHidden }

theorem Entity.value?_redacted (e : Entity) (column : String) :
    e.redacted.value? column = (e.value? column).map Value.nullOrHidden :=
  Pairs.find?_mapValues Value.nullOrHidden column e.columns

/-- To hide the values of an entity twice is to hide them once. -/
theorem RowData.redacted_entity_redacted (e : Entity) :
    (RowData.entity e.redacted).redacted = (RowData.entity e).redacted := by
  simp [redacted, Entity.redacted, Pairs.mapValues, Value.nullOrHidden_nullOrHidden]

namespace Repository

open Builder (Call)

/-- A conjunction is redacted member by member. -/
theorem redacted_combine (cs : List Condition) :
    (combine cs).redacted = combine (cs.map Condition.redacted) := by
  match cs with
  | [] => rfl
  | [c] => rfl
  | first :: second :: rest =>
    rw [combine, Condition.all, Condition.redacted, Condition.redactedEach_eq_map]
    rfl
    all_goals simp

/-- Statements that differ in values only are seen alike when they are submitted. -/
theorem seen_submitPlan_congr {α : Type} {calls calls' : List Call} {next : Builder → Plan α}
    (h : calls.map Call.redacted = calls'.map Call.redacted)
    (hnext : ∀ b, (next b.redacted).seen = (next b).seen) :
    (submitPlan (Builder.sequence calls) next).seen =
      (submitPlan (Builder.sequence calls') next).seen := by
  -- Either side is compared with the redacted calls, which are the same for both.
  have hredacted : ∀ cs : List Call, (submitPlan (Builder.sequence cs) next).seen =
      (submitPlan (Builder.sequence (cs.map Call.redacted)) next).seen := by
    intro cs
    have hnew : Builder.sequence (cs.map Call.redacted) .new = _ :=
      Builder.sequence_redacted cs .new
    rw [submitPlan, submitPlan, hnew]
    cases Builder.sequence cs .new with
    | ok u b => exact (hnext b).symm
    | error e b => rfl
  rw [hredacted calls, hredacted calls', h]

/-- The key conditions of an entity differ in values only from those of the redacted entity. -/
theorem keyConditions_redacted (e : Entity) (keys : List String) :
    (keyConditions e.redacted keys).map (·.map Condition.redacted) =
      (keyConditions e keys).map (·.map Condition.redacted) := by
  induction keys with
  | nil => rfl
  | cons key rest ih =>
    rw [keyConditions, keyConditions, Entity.value?_redacted]
    cases e.value? key with
    | none => rfl
    | some value =>
      have hcons : ∀ (cs : Except Failure (List Condition)) (v : Value),
          (cs.map (.eq key v :: ·)).map (·.map Condition.redacted) =
            (cs.map (·.map Condition.redacted)).map (.eq key .hidden :: ·) := by
        intro cs v
        cases cs <;> rfl
      show ((keyConditions e.redacted rest).map (.eq key value.nullOrHidden :: ·)).map _ = _
      rw [hcons, hcons, ih]

/-- An entity and its redacted form have conditions on their keys that differ in values only, or
fail with the same error. -/
theorem keyCondition_redacted (e : Entity) :
    (keyCondition e.redacted).map Condition.redacted = (keyCondition e).map Condition.redacted := by
  -- the key conditions are combined behind the errors of reading them
  have hcombine : ∀ cs : Except Failure (List Condition),
      (cs.map combine).map Condition.redacted =
        (cs.map (·.map Condition.redacted)).map combine := by
    intro cs
    cases cs with
    | error f => rfl
    | ok cs => exact congrArg Except.ok (redacted_combine cs)
  unfold keyCondition
  show (if e.primaryKeys.isEmpty then _ else
    (keyConditions e.redacted e.primaryKeys).map combine).map Condition.redacted = _
  by_cases hempty : e.primaryKeys.isEmpty = true
  · rw [if_pos hempty, if_pos hempty]
  · rw [if_neg hempty, if_neg hempty, hcombine, hcombine, keyConditions_redacted]

/-! ## Operations -/

/-- Looking a row up is seen alike under whatever key. -/
theorem seen_getPlan_redacted (r : Repository) (keys : List (String × Value)) :
    (r.getPlan (Pairs.redacted keys)).seen = (r.getPlan keys).seen := by
  have hcomparisons : (keyComparisons (Pairs.redacted keys)).map Condition.redacted =
      (keyComparisons keys).map Condition.redacted := by
    simp [keyComparisons, Pairs.redacted, Pairs.mapValues, Condition.eq, Condition.redacted]
  have hempty : (Pairs.redacted keys).isEmpty = keys.isEmpty := by
    simp [Pairs.redacted, Pairs.mapValues]
  unfold getPlan
  rw [hempty]
  -- an empty list of keys is refused before any statement is made
  by_cases hkeys : keys.isEmpty = true
  · rw [if_pos hkeys, if_pos hkeys]
  · rw [if_neg hkeys, if_neg hkeys, selectWhere_eq_sequence, selectWhere_eq_sequence]
    refine seen_submitPlan_congr ?_ fun b => b.seen_firstAsPlan_redacted r.ofRow
    simp only [List.map_cons, List.map_nil, Call.redacted, Filter.redacted, redacted_combine,
      hcomparisons]

/-- Inserting an entity is seen alike whatever it holds. -/
theorem seen_addPlan_redacted (r : Repository) (e : Entity) :
    (r.addPlan e.redacted).seen = (r.addPlan e).seen := by
  unfold addPlan
  rw [insertStatement_eq_sequence, insertStatement_eq_sequence]
  refine seen_submitPlan_congr ?_ fun b => b.seen_plan_redacted .execute
  simp [Call.redacted, RowData.redacted_entity_redacted]

/-- Statements on the key of an entity that differ in values only are seen alike. -/
theorem seen_keyedPlan_redacted {e : Entity} {statement statement' : Condition → Builder.Edit Unit}
    {calls calls' : Condition → List Call}
    (hs : ∀ c, statement c = Builder.sequence (calls c))
    (hs' : ∀ c, statement' c = Builder.sequence (calls' c))
    (h : ∀ c c', c.redacted = c'.redacted →
      (calls c).map Call.redacted = (calls' c').map Call.redacted) :
    (keyedPlan e.redacted statement).seen = (keyedPlan e statement').seen := by
  have hcondition := keyCondition_redacted e
  unfold keyedPlan
  -- Both key conditions fail or both succeed: the two mixed cases contradict `hcondition`.
  cases hr : keyCondition e.redacted with
  | error f =>
    cases he : keyCondition e with
    | error f' => rfl
    | ok c =>
      rw [hr, he] at hcondition
      cases hcondition
  | ok c =>
    cases he : keyCondition e with
    | error f' =>
      rw [hr, he] at hcondition
      cases hcondition
    | ok c' =>
      rw [hr, he] at hcondition
      have hsame : c.redacted = c'.redacted := Except.ok.inj hcondition
      show (submitPlan (statement c) _).seen = (submitPlan (statement' c') _).seen
      rw [hs, hs']
      exact seen_submitPlan_congr (h c c' hsame) fun b => b.seen_plan_redacted .execute

/-- Updating the row of an entity is seen alike whatever it holds. -/
theorem seen_updatePlan_redacted (r : Repository) (e : Entity) :
    (r.updatePlan e.redacted).seen = (r.updatePlan e).seen := by
  refine seen_keyedPlan_redacted (r.updateStatement_eq_sequence e.redacted)
    (r.updateStatement_eq_sequence e) ?_
  intro c c' hsame
  simp [Call.redacted, Filter.redacted, RowData.redacted_entity_redacted, hsame]

theorem seen_deletePlan_redacted (r : Repository) (e : Entity) :
    (r.deletePlan e.redacted).seen = (r.deletePlan e).seen := by
  refine seen_keyedPlan_redacted r.deleteStatement_eq_sequence r.deleteStatement_eq_sequence ?_
  intro c c' hsame
  simp [Call.redacted, Filter.redacted, hsame]

/-- Which keys are unset hangs on nulls alone. -/
theorem unsetKeys_redacted (e : Entity) : unsetKeys e.redacted = unsetKeys e := by
  unfold unsetKeys
  refine List.filter_congr ?_
  intro key _
  rw [Entity.value?_redacted]
  cases e.value? key with
  | none => rfl
  | some value => exact value.isNull_nullOrHidden

/-- Saving an entity is seen alike whatever it holds, as long as the same keys are unset. -/
theorem seen_savePlan_redacted (r : Repository) (e : Entity) :
    (r.savePlan e.redacted).seen = (r.savePlan e).seen := by
  have hkeys : e.redacted.primaryKeys = e.primaryKeys := rfl
  unfold savePlan
  rw [unsetKeys_redacted, hkeys]
  generalize e.primaryKeys.length = keys
  generalize (unsetKeys e).length = unset
  -- one case for each of the branches: refused, updated, added, partly set
  match keys, unset with
  | 0, _ => rfl
  | 1, 0 | _ + 2, 0 => exact r.seen_updatePlan_redacted e
  | 1, 1 => exact r.seen_addPlan_redacted e
  | 1, _ + 2 => rfl
  | _ + 2, _ + 1 => rfl

end Repository

/-! ## Actions -/

namespace Action

variable {α : Type}

/-- The action with its values hidden. Of an entity it is kept which values are null. -/
def redacted : Action α → Action α
  | .call i c => .call i c.redacted
  | .run i m => .run i m
  | .findAs i read => .findAs i read
  | .firstAs i read => .firstAs i read
  | .findWith i o => .findWith i o.redacted
  | .all r => .all r
  | .get r keys => .get r (Pairs.redacted keys)
  | .add r e => .add r e.redacted
  | .update r e => .update r e.redacted
  | .delete r e => .delete r e.redacted
  | .save r e => .save r e.redacted
  | .lastInsertId => .lastInsertId

/-- What an action lets a log see does not hang on its values or on those of the builders. -/
theorem seen_plan_redacted (a : Action α) (bs : Builders) :
    (a.redacted.plan bs.redacted).seen = (a.plan bs).seen := by
  cases a with
  | call i c =>
    have happly : Builder.apply c.redacted (bs.redacted i) = _ :=
      Builder.apply_redacted c (bs i)
    simp only [redacted, plan, happly]
    cases Builder.apply c (bs i) <;> rfl
  | run i m => exact (bs i).seen_plan_redacted m
  | findAs i read => exact (bs i).seen_findAsPlan_redacted read
  | firstAs i read => exact (bs i).seen_firstAsPlan_redacted read
  | findWith i o => exact (bs i).seen_findWithPlan_redacted o
  | all r => rfl
  | get r keys => exact r.seen_getPlan_redacted keys
  | add r e => exact r.seen_addPlan_redacted e
  | update r e => exact r.seen_updatePlan_redacted e
  | delete r e => exact r.seen_deletePlan_redacted e
  | save r e => exact r.seen_savePlan_redacted e
  | lastInsertId => rfl

/-- An action with hidden values leaves the builders with hidden values. -/
theorem leaves_redacted (a : Action α) (bs : Builders) :
    a.redacted.leaves bs.redacted = (a.leaves bs).redacted := by
  have hput : ∀ (i : Nat) (b b' : Builder), b' = b.redacted →
      bs.redacted.put i b' = (bs.put i b).redacted := by
    rintro i b _ rfl
    exact (bs.redacted_put i b).symm
  -- only five actions touch a builder, each one the builder at its index
  cases a with
  | call i c => exact hput i _ _ (Builder.after_redacted (bs i) c)
  | run i m => exact hput i _ _ (Builder.after_redacted (bs i) .statement)
  | findAs i read => exact hput i _ _ (Builder.after_redacted (bs i) .statement)
  | firstAs i read => exact hput i _ _ (Builder.after_redacted (bs i) .statement)
  | findWith i o => exact hput i _ _ ((bs i).afterFindWith_redacted o)
  | _ => rfl

end Action

/-! ## Sessions -/

/-- The same database without events of its own. -/
def Database.muted {σ : Type} (db : Database σ) : Database σ where
  answer r s := { db.answer r s with events := [] }

namespace Session

variable {σ σ' : Type}

/-- The session with its values hidden. -/
def redacted (session : Session) : Session :=
  session.map fun ⟨α, a⟩ => ⟨α, a.redacted⟩

/-- What a session lets a log see, action by action. -/
def seen : Session → Builders → List (List Event × Option Request)
  | [], _ => []
  | ⟨_, a⟩ :: rest, bs => (a.plan bs).seen :: seen rest (a.leaves bs)

/-- What a session lets a log see does not hang on its values. -/
theorem seen_redacted (session : Session) (bs : Builders) :
    seen session.redacted bs.redacted = seen session bs := by
  induction session generalizing bs with
  | nil => rfl
  | cons first rest ih =>
    obtain ⟨α, a⟩ := first
    -- the first action is seen alike and leaves redacted builders, from which the rest goes on
    show (a.redacted.plan bs.redacted).seen ::
      seen (redacted rest) (a.redacted.leaves bs.redacted) = _
    rw [a.seen_plan_redacted, a.leaves_redacted, ih]
    rfl

/-- What a log sees of a session does not hang on the database. -/
theorem map_seen_transcript (db : Database σ) (session : Session) (bs : Builders) (s : σ) :
    ((session.transcript db bs s).map fun x => (x.own, x.request?.map Request.redacted)) =
      seen session bs := by
  induction session generalizing bs s with
  | nil => rfl
  | cons first rest ih =>
    obtain ⟨α, a⟩ := first
    simp only [transcript, List.map_cons, ih, seen, Action.perform_eq, Effect.performed]
    rfl

/-! ## Logs -/

/-- What the layers report of a session is what they report of the requests that arrive. -/
theorem flatMap_reported (db : Database σ) (layers : List Database.Layer) (session : Session)
    (bs : Builders) (s : σ) :
    (session.transcript db bs s).flatMap (Exchange.reported layers) =
      (session.perform db.recording bs (s, [])).state.2.flatMap (Database.layerEvents layers) := by
  rw [state_perform_recording, List.nil_append]
  -- The requests that arrive are those of the exchanges, in the same order.
  generalize session.transcript db bs s = exchanges
  induction exchanges with
  | nil => rfl
  | cons x rest ih =>
    rw [List.flatMap_cons, ih, Exchange.reported]
    cases hr : x.request? <;> simp [hr]

/-- A database without events of its own adds none to an exchange. -/
theorem inner_of_muted {db : Database σ} {session : Session} {bs : Builders} {s : σ}
    {x : Exchange} (h : x ∈ session.transcript db.muted bs s) : x.inner = [] := by
  induction session generalizing bs s with
  | nil => cases h
  | cons first rest ih =>
    obtain ⟨α, a⟩ := first
    rcases List.mem_cons.1 h with rfl | hrest
    · cases hr : (a.plan bs).request? <;> simp [Plan.exchange, hr, Database.muted]
    · exact ih hrest

/-- The log of a session on a database that reports nothing itself is read off what the session lets
a log see. -/
theorem events_perform_muted (db : Database σ) (layers : List Database.Layer) (session : Session)
    (bs : Builders) (s : σ) :
    (session.perform (db.muted.wrapAll layers) bs s).events =
      (seen session bs).flatMap fun (own, r?) =>
        own ++ r?.toList.flatMap (Database.layerEvents layers) := by
  -- Both sides go over the exchanges, in which the database itself reports nothing.
  rw [perform_wrapAll, ← map_seen_transcript db.muted session bs s, List.flatMap_map]
  refine List.flatMap_congr fun x hx => ?_
  rw [Exchange.events, inner_of_muted hx, List.append_nil, Exchange.reported]
  cases x.request? with
  | none => rfl
  | some r => simp [Database.layerEvents_redacted]

/-- Whatever the layers around a database and however they are nested, a session on it has the
results, leaves the builders and the state, and makes the requests that it does without them. To its
log every logging layer adds one event for each statement, whether or not it fails, behind the
events before the request and ahead of those of the database, the outermost layer first; asking for
an id is not reported. What the layers report is the same for any two sessions whose requests differ
in values only, and the whole log is the same for any two sessions that differ in values only. -/
theorem layers_are_transparent_and_secret (layers : List Database.Layer) :
    (∀ {σ : Type} (db : Database σ) (session : Session) (bs : Builders) (s : σ),
      session.perform (db.wrapAll layers) bs s =
          { session.perform db bs s with
            events := (session.transcript db bs s).flatMap (Exchange.events layers) } ∧
        (session.perform (db.recording.wrapAll layers) bs (s, [])).state =
          (session.perform db.recording bs (s, [])).state ∧
        (session.perform db.recording bs (s, [])).state =
          ((session.perform db bs s).state,
            (session.transcript db bs s).filterMap Exchange.request?)) ∧
    (∀ (m : Method) (sql : String) (params : Params),
      Database.layerEvents layers (.run m sql params) =
        (Database.loggers layers).map fun options =>
          { level := options.level
            fields :=
              [("operation", m.name), ("param_count", toString params.size),
                ("sql", options.shorten sql)] }) ∧
    Database.layerEvents layers .lastInsertId = [] ∧
    ∀ {σ σ' : Type} (db : Database σ) (db' : Database σ') (session session' : Session)
      (bs bs' : Builders) (s : σ) (s' : σ'),
      ((session.perform db.recording bs (s, [])).state.2.map Request.redacted =
          (session'.perform db'.recording bs' (s', [])).state.2.map Request.redacted →
        (session.transcript db bs s).flatMap (Exchange.reported layers) =
          (session'.transcript db' bs' s').flatMap (Exchange.reported layers)) ∧
      (session.redacted = session'.redacted → bs.redacted = bs'.redacted →
        (session.perform (db.muted.wrapAll layers) bs s).events =
          (session'.perform (db'.muted.wrapAll layers) bs' s').events) := by
  refine ⟨?_, Database.layerEvents_run layers, Database.layerEvents_lastInsertId layers, ?_⟩
  · intro σ db session bs s
    refine ⟨session.perform_wrapAll db layers bs s, ?_, ?_⟩
    · rw [perform_wrapAll]
    · rw [state_perform_recording, List.nil_append]
  · intro σ σ' db db' session session' bs bs' s s'
    constructor
    · intro hrequests
      rw [flatMap_reported, flatMap_reported]
      exact Database.flatMap_layerEvents_congr layers hrequests
    · intro hsession hbuilders
      rw [events_perform_muted, events_perform_muted, ← seen_redacted, hsession, hbuilders,
        seen_redacted]

/-- A session that inserts a row and asks for its id. -/
def insertion (title : String) : Session :=
  [⟨_, .call 0 (.insertInto (.name "articles"))⟩,
    ⟨_, .call 0 (.values (.mapping [("title", .text title)]))⟩, ⟨_, .run 0 .execute⟩,
    ⟨_, .lastInsertId⟩]

/-- Two logging layers with other layers between them; the outer one shows a few bytes only. -/
def nested : List Database.Layer :=
  [.reference, .logging {}, .box, .dynamic, .logging { level := .info, maxLength := some 6 }]

theorem insertions_are_logged_alike :
    ((insertion "'); --").perform ((Database.prepared
        { failure := some (.entity "gone") }).muted.wrapAll nested) (fun _ => .new) ()).events =
      ((insertion "Lean").perform ((Database.prepared {}).muted.wrapAll nested)
        (fun _ => .new) ()).events ∧
    ((insertion "'); --").transcript (Database.prepared {}) (fun _ => .new) ()).flatMap
        (Exchange.reported nested) =
      ((insertion "Lean").transcript (Database.prepared {}) (fun _ => .new) ()).flatMap
        (Exchange.reported nested) ∧
    ((insertion "Lean").transcript (Database.prepared {}) (fun _ => .new) ()).flatMap
        (Exchange.reported nested) =
      [⟨.info, [("operation", "execute"), ("param_count", "1"), ("sql", "INSERT...")]⟩,
        ⟨.debug, [("operation", "execute"), ("param_count", "1"),
          ("sql", "INSERT INTO articles (title) VALUES (:title)")]⟩] := by
  obtain ⟨-, -, -, hsecret⟩ := layers_are_transparent_and_secret nested
  refine ⟨?_, ?_, by decide +kernel⟩
  · exact (hsecret (Database.prepared { failure := some (.entity "gone") }) (Database.prepared {})
      (insertion "'); --") (insertion "Lean") (fun _ => .new) (fun _ => .new) () ()).2 rfl rfl
  · exact (hsecret (Database.prepared {}) (Database.prepared {}) (insertion "'); --")
      (insertion "Lean") (fun _ => .new) (fun _ => .new) () ()).1 (by decide +kernel)

end Session

end BoundSql
