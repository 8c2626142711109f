import BoundSql.Engine.Location
import BoundSql.Engine.Memory
import BoundSql.Text.Blank
import BoundSql.Toml.Reader

/-!
# Configuration

A configuration file names the database in its table `database`. A relative path of a database is
meant relative to the directory of the file.
-/

namespace BoundSql

/-- The database engines. -/
inductive EngineKind where
  | sqlite
deriving DecidableEq, Repr

/-- The name of an engine in a configuration. -/
def EngineKind.name : EngineKind → String
  | sqlite => "sqlite"

/-- The engine with a name. -/
def EngineKind.ofName? (s : String) : Option EngineKind :=
  if s = EngineKind.sqlite.name then some .sqlite else none

/-- Where a database is and how it is reached. -/
structure DatabaseConfig where
  engine : EngineKind
  path : Option String
  /-- Whether statements are logged. -/
  logSql : Bool
  /-- The directory that a relative path starts from. -/
  baseDir : Option String
deriving DecidableEq, Repr

namespace DatabaseConfig

/-! ## Reading -/

/-- Whether a value has nothing in it. -/
def isHollow : Toml → Bool
  | .array [] => true
  | .table _ [] => true
  | _ => false

/-- An engine: its name, or a table with its name as the only key and nothing below it. -/
def readEngine? : Toml → Option EngineKind
  | .string s => EngineKind.ofName? s
  | .table _ [(key, v)] => if isHollow v then EngineKind.ofName? key else none
  | _ => none

/-- A text. -/
def readText? : Toml → Option String
  | .string s => some s
  | _ => none

/-- A truth value. -/
def readBool? : Toml → Option Bool
  | .boolean b => some b
  | _ => none

/-- A value that may be left out, and that is of the right kind otherwise. -/
def optional {α : Type} (read? : Toml → Option α) : Option Toml → Option (Option α)
  | none => some none
  | some v => (read? v).map some

/-- The settings in a table, where unknown keys do not matter as long as their numbers are in range,
or in a list, where the path may not be left out and nothing after the third item is looked at. -/
def ofSettings? : Toml → Option DatabaseConfig
  | .array (engine :: path :: rest) => do
    let logSql ← optional readBool? rest.head?
    return ⟨← readEngine? engine, some (← readText? path), logSql.getD false, none⟩
  | t => do
    guard t.isInRange
    let engine ← readEngine? (← t.get? "driver")
    let path ← optional readText? (t.get? "path")
    let logSql ← optional readBool? (t.get? "log_sql")
    return ⟨engine, path, logSql.getD false, none⟩

/-- The settings of a document. The numbers under its other keys have to be in range. -/
def ofDocument? : Toml → Option DatabaseConfig
  | .table _ entries => do
    guard (Toml.entriesInRange (entries.filter (·.1 != "database")))
    ofSettings? (← Pairs.find? "database" entries)
  | _ => none

/-- Reads a configuration from the text of its file. -/
def ofText (text : String) : Except Failure DatabaseConfig :=
  match (Toml.parse? text).bind ofDocument? with
  | some config => .ok config
  | none => .error (.config "failed to parse config")

/-- Reads a configuration from a file, whose directory becomes the base of relative paths. -/
def load (files : Files) (path : String) : Except Failure DatabaseConfig :=
  match files.read path with
  | .error fault =>
    .error (.config ("failed to read config file " ++ path ++ ": " ++ fault.message))
  | .ok text => (ofText text).map fun config => { config with baseDir := some (Path.parent path) }

/-! ## Use -/

/-- The path that stands for a database in memory. -/
def inMemory : String := ":memory:"

/-- The path of the database, from the base directory if it is relative. -/
def resolvedPath (config : DatabaseConfig) : Except Failure String :=
  match config.path with
  | none => .error (.config "sqlite driver requires a \x60path\x60")
  | some path =>
    if Text.isBlank path then .error (.config "sqlite driver requires a \x60path\x60")
    else match config.baseDir with
      | none => .ok path
      | some directory =>
        if Path.isAbsolute path || Path.same path inMemory then .ok path
        else .ok (Path.join directory path)

/-- The database of a configuration, logged if it says so. A database without tables answers alike
in memory and in a file. -/
def connect (files : Files) (config : DatabaseConfig) : Except Failure (Database Unit) := do
  let path ← config.resolvedPath
  let location :=
    if Path.same path inMemory then some .memory else Engine.Location.ofText? path
  if location.any (Engine.Location.canOpen files) then
    let db := Engine.memory
    return if config.logSql then db.logged {} else db.forward
  else .error (.database .engine)

end DatabaseConfig

end BoundSql
