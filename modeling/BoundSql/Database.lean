import BoundSql.Params
import BoundSql.Row
import BoundSql.Text.Utf8

/-!
# Databases

A database answers requests and may change with each of them: it is a state machine whose state
type is its own. What it reports to a log while it answers is part of the reply.
-/

namespace BoundSql

/-! ## Events -/

/-- How important an event is. -/
inductive Level where
  | error
  | warn
  | info
  | debug
  | trace
deriving DecidableEq, Repr

/-- The name of a level. -/
def Level.name : Level → String
  | error => "ERROR"
  | warn => "WARN"
  | info => "INFO"
  | debug => "DEBUG"
  | trace => "TRACE"

/-- What is reported to a log. -/
structure Event where
  level : Level
  fields : List (String × String)
deriving DecidableEq, Repr

/-! ## Requests -/

/-- How a statement is run. -/
inductive Method where
  /-- For its effect. -/
  | execute
  /-- For all its rows. -/
  | queryMany
  /-- For its first row. -/
  | queryOne
deriving DecidableEq, Repr

/-- The name of a method. -/
def Method.name : Method → String
  | execute => "execute"
  | queryMany => "query_many"
  | queryOne => "query_one"

/-- What running a statement gives. -/
@[reducible]
def Method.Answer : Method → Type
  | execute => Nat
  | queryMany => List Row
  | queryOne => Option Row

/-- What a database is asked. -/
inductive Request where
  | run (method : Method) (sql : String) (params : Params)
  | lastInsertId
deriving DecidableEq

/-- What a request gives: the count of affected rows, the rows, the first row if there is one, or
the id of the row inserted last. -/
@[reducible]
def Request.Answer : Request → Type
  | run method _ _ => method.Answer
  | lastInsertId => Int64

/-- The outcome of a request, the state after it and the events reported on the way. -/
structure Reply (σ α : Type) where
  result : Except Failure α
  state : σ
  events : List Event

/-- A database with states of type `σ`. -/
structure Database (σ : Type) where
  answer : (r : Request) → σ → Reply σ r.Answer

namespace Database

variable {σ : Type}

/-! ## Wrappers -/

/-- The same database, reached through a reference, a box or a dynamic handle: nothing is added
to a request or its reply. -/
def forward (db : Database σ) : Database σ where
  answer r s := db.answer r s

/-- How statements are logged. -/
structure LogOptions where
  level : Level := .debug
  /-- The most bytes of a statement that are logged, if there is a bound. -/
  maxLength : Option Nat := some 200
deriving DecidableEq, Repr

/-- The front of a statement that has more bytes than the bound: it is cut at the bound, or in front
of the character that lies across it. -/
def cutWithin (max : Nat) (sql : String) : String :=
  Text.upTo sql (Text.backOff sql max) (Text.isBoundary_backOff sql max)

/-- A statement as it is logged: whole if it has at most the bound of bytes, and else cut between
two characters within the bound, with dots after it. -/
def LogOptions.shorten (o : LogOptions) (sql : String) : String :=
  match o.maxLength with
  | none => sql
  | some max =>
    if sql.utf8ByteSize ≤ max then sql
    else cutWithin max sql ++ "..."

/-- The event for a request to run a statement. Values are not part of it. -/
def LogOptions.event? (o : LogOptions) : Request → Option Event
  | .run method sql params =>
    some
      { level := o.level
        fields :=
          [("operation", method.name), ("param_count", toString params.size),
            ("sql", o.shorten sql)] }
  | .lastInsertId => none

/-- Reports every statement before it is handed on. -/
def logged (o : LogOptions) (db : Database σ) : Database σ where
  answer r s :=
    let reply := db.answer r s
    { reply with events := (o.event? r).toList ++ reply.events }

/-- A layer around a database. -/
inductive Layer where
  | reference
  | box
  | dynamic
  | logging (options : LogOptions)
deriving DecidableEq, Repr

/-- A database with one more layer around it. -/
def wrap (db : Database σ) : Layer → Database σ
  | .reference | .box | .dynamic => db.forward
  | .logging options => db.logged options

/-- A database with layers around it, the first one innermost. -/
def wrapAll (db : Database σ) (layers : List Layer) : Database σ :=
  layers.foldl wrap db

/-! ## Observation -/

/-- Keeps every request that arrives, the latest last. -/
def recording (db : Database σ) : Database (σ × List Request) where
  answer r s :=
    let reply := db.answer r s.1
    ⟨reply.result, (reply.state, s.2 ++ [r]), reply.events⟩

/-- What a prepared database gives. -/
structure Prepared where
  affected : Nat := 0
  rows : List Row := []
  id : Int64 := 0
  failure : Option Failure := none

/-- A database that gives every request its prepared answer: a failure if there is one. -/
def prepared (p : Prepared) : Database Unit where
  answer r s :=
    let give {α : Type} (a : α) : Except Failure α :=
      match p.failure with
      | none => .ok a
      | some f => .error f
    match r with
    | .run .execute _ _ => ⟨give p.affected, s, []⟩
    | .run .queryMany _ _ => ⟨give p.rows, s, []⟩
    | .run .queryOne _ _ => ⟨give p.rows.head?, s, []⟩
    | .lastInsertId => ⟨give p.id, s, []⟩

end Database

end BoundSql
