import Mathlib.Data.List.Induction
import BoundSql.Proofs.Statement.Redaction

/-!
# Layers

A database with layers around it answers like the database inside. A request passes every layer on
its way in, from the outermost to the innermost, and each logging layer reports it when it passes.

Main statement: `answer_wrapAll`. What is reported of a request does not hang on the values that it
binds (`layerEvents_redacted`).
-/

namespace BoundSql

/-- The request with the values of its bindings hidden. -/
def Request.redacted : Request → Request
  | run m sql params => run m sql params.redacted
  | lastInsertId => lastInsertId

namespace Database

variable {σ : Type}

/-- How a layer logs, if it does. -/
def Layer.options? : Layer → Option LogOptions
  | .logging options => some options
  | .reference | .box | .dynamic => none

/-- The logging layers, the outermost first. -/
def loggers (layers : List Layer) : List LogOptions :=
  layers.reverse.filterMap Layer.options?

/-- What the layers report of a request, the outermost first. -/
def layerEvents (layers : List Layer) (r : Request) : List Event :=
  (loggers layers).filterMap (·.event? r)

/-! ## One request -/

/-- A layer reports the request, if it logs, and passes it on. -/
theorem answer_wrap (db : Database σ) (layer : Layer) (r : Request) (s : σ) :
    (db.wrap layer).answer r s =
      ⟨(db.answer r s).result, (db.answer r s).state,
        (layer.options?.bind (·.event? r)).toList ++ (db.answer r s).events⟩ := by
  cases layer <;> rfl

theorem wrapAll_append (db : Database σ) (layers : List Layer) (layer : Layer) :
    db.wrapAll (layers ++ [layer]) = (db.wrapAll layers).wrap layer := by
  simp [wrapAll]

theorem layerEvents_append (layers : List Layer) (layer : Layer) (r : Request) :
    layerEvents (layers ++ [layer]) r =
      (layer.options?.bind (·.event? r)).toList ++ layerEvents layers r := by
  unfold layerEvents loggers
  rw [List.reverse_append, List.reverse_singleton, List.singleton_append]
  cases ho : layer.options? with
  | none => simp [ho]
  | some options => cases he : options.event? r <;> simp [ho, he]

/-- A database inside layers gives its answer through them, after they have reported the request. -/
theorem answer_wrapAll (db : Database σ) (layers : List Layer) (r : Request) (s : σ) :
    (db.wrapAll layers).answer r s =
      ⟨(db.answer r s).result, (db.answer r s).state,
        layerEvents layers r ++ (db.answer r s).events⟩ := by
  -- The last layer is the outermost one.
  induction layers using List.reverseRecOn with
  | nil => rfl
  | append_singleton layers layer ih =>
    rw [wrapAll_append, answer_wrap, ih, layerEvents_append, List.append_assoc]

/-! ## Reports -/

/-- Every logging layer reports a statement once: how it is run, how many values it binds and, as
far as the layer shows it, its text. -/
theorem layerEvents_run (layers : List Layer) (m : Method) (sql : String) (params : Params) :
    layerEvents layers (.run m sql params) = (loggers layers).map fun options =>
      { level := options.level
        fields :=
          [("operation", m.name), ("param_count", toString params.size),
            ("sql", options.shorten sql)] } := by
  unfold layerEvents
  rw [← List.filterMap_eq_map]
  rfl

theorem layerEvents_lastInsertId (layers : List Layer) :
    layerEvents layers .lastInsertId = [] := by
  unfold layerEvents
  exact List.filterMap_eq_nil_iff.2 fun options _ => rfl

theorem event?_redacted (o : LogOptions) (r : Request) : o.event? r.redacted = o.event? r := by
  cases r with
  | run m sql params => simp [Request.redacted, LogOptions.event?]
  | lastInsertId => rfl

/-- What the layers report does not show what is bound. -/
theorem layerEvents_redacted (layers : List Layer) (r : Request) :
    layerEvents layers r.redacted = layerEvents layers r := by
  simp only [layerEvents, event?_redacted]

/-- Requests that differ in values only are reported alike. -/
theorem flatMap_layerEvents_congr (layers : List Layer) {rs rs' : List Request}
    (h : rs.map Request.redacted = rs'.map Request.redacted) :
    rs.flatMap (layerEvents layers) = rs'.flatMap (layerEvents layers) := by
  have hredacted : ∀ qs : List Request,
      qs.flatMap (layerEvents layers) = (qs.map Request.redacted).flatMap (layerEvents layers) := by
    intro qs
    simp only [List.flatMap_map, layerEvents_redacted]
  rw [hredacted rs, hredacted rs', h]

end Database

end BoundSql
