/-!
# Errors

`QueryError` is raised while a statement is built or rendered, before any database sees it.
`Failure` is every way in which an operation that may reach a database can fail. Each has one
function that words it.
-/

namespace BoundSql

/-- A statement that cannot be built as asked. -/
inductive QueryError where
  /-- A required clause is missing, or no statement was started. -/
  | incompleteStatement (kind : String)
  /-- The clause is present. -/
  | duplicateClause (clause : String)
  /-- The clause does not fit what is there. -/
  | prerequisiteMissing (clause reason : String)
  /-- The argument names no table. -/
  | unsupportedTarget (clause target : String)
  /-- The row or column data cannot be used. -/
  | badDataShape (clause reason : String)
  /-- The condition is not a well-formed tree. -/
  | badConditionShape (reason : String)
  /-- The statement was rendered and cannot change any more. -/
  | finalized (clause : String)
deriving DecidableEq, Repr

/-- The wording of a builder error. -/
def QueryError.message : QueryError → String
  | incompleteStatement kind => "Incomplete " ++ kind ++ " statement"
  | duplicateClause clause => "Cannot add " ++ clause ++ " statement: already present"
  | prerequisiteMissing clause reason => "Cannot add " ++ clause ++ " statement: " ++ reason
  | unsupportedTarget clause target => "Unsupported table in " ++ clause ++ ": " ++ target
  | badDataShape clause reason => "Bad data in " ++ clause ++ ": " ++ reason
  | badConditionShape reason => "Bad where construction: " ++ reason
  | finalized clause => "Cannot add " ++ clause ++ " statement: statement already rendered"

/-- What went wrong inside a database. -/
inductive DatabaseFault where
  /-- A placeholder has no binding. -/
  | invalidParameterName (name : String)
  /-- The engine refused the statement in its own words. -/
  | engine
deriving DecidableEq, Repr

/-- An operation that failed. -/
inductive Failure where
  | query (error : QueryError)
  | database (fault : DatabaseFault)
  | notFound (reason : String)
  | decode (column reason : String)
  | entity (reason : String)
  | config (reason : String)
  | other (reason : String)
deriving DecidableEq, Repr

namespace Failure

/-- The wording of a failure; the words of an engine are its own. -/
def message? : Failure → Option String
  | query error => some ("Incorrect query: " ++ error.message)
  | database (.invalidParameterName name) =>
    some ("Database error: Invalid parameter name: " ++ name)
  | database .engine => none
  | notFound reason => some ("Not found: " ++ reason)
  | decode column reason => some ("Decode error on column '" ++ column ++ "': " ++ reason)
  | entity reason => some ("Entity error: " ++ reason)
  | config reason => some ("Configuration error: " ++ reason)
  | other reason => some reason

/-- Whether something that was looked for is missing. -/
def isNotFound : Failure → Bool
  | notFound _ => true
  | _ => false

/-- The builder error, if the failure is one. -/
def queryError? : Failure → Option QueryError
  | query error => some error
  | _ => none

/-- Whether the statement could not be built. -/
def isQueryError (f : Failure) : Bool :=
  f.queryError?.isSome

end Failure

end BoundSql
