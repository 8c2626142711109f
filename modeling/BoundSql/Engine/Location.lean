import BoundSql.Files
import BoundSql.Number.Digits
import BoundSql.Text.Utf8

/-!
# Locations of databases

A database is kept in memory or in a file. Its location is written as the path of the file or as a
URI: `file:`, the name of this machine after two slashes, which may be left out, a path, and after a
question mark options with `&` between them. What follows a number sign does not count. The parts of
a URI are bytes, which need not be text.
-/

namespace BoundSql.Engine

/-- Where a database is kept. -/
inductive Location where
  | memory
  /-- In a file; `create` says whether a missing file is made. The file gets the permissions of a
  model, which has to be there. -/
  | file (path : List UInt8) (create : Bool) (model : Option (List UInt8))
deriving DecidableEq, Repr

namespace Location

/-! ## Parts of a URI -/

/-- The bytes of a part of a URI. A percent sign and two hexadecimal digits are one byte, and a zero
byte ends the part. -/
def decode (cs : List Char) : List UInt8 :=
  match cs with
  | [] => []
  | c :: rest =>
    let escaped := if c = '%' && rest.length ≥ 2 then Number.ofHexDigits? (rest.take 2) else none
    match escaped with
    -- Only an escape can write a zero byte: the text of a location has none.
    | some 0 => []
    | some n => UInt8.ofNat n :: decode (rest.drop 2)
    | none => Text.utf8 c.toString ++ decode rest
termination_by cs.length
decreasing_by all_goals simp only [List.length_cons, List.length_drop]; omega

/-- Text cut at every occurrence of a character. -/
def cutAt (mark : Char) : List Char → List (List Char)
  | [] => [[]]
  | c :: rest =>
    match cutAt mark rest with
    | [] => []
    | first :: others => if c = mark then [] :: first :: others else (c :: first) :: others

/-- The text after the name of the machine, which has to be this one. -/
def afterMachine? : List Char → Option (List Char)
  | '/' :: '/' :: rest =>
    let name := String.ofList (rest.takeWhile (· != '/'))
    if name = "" || name = "localhost" then some (rest.dropWhile (· != '/')) else none
  | cs => some cs

/-! ## Options -/

/-- What is allowed with a file, or that there is none. -/
inductive Access where
  | readOnly
  | readWrite
  | create
  | memory
deriving DecidableEq, Repr

namespace Access

/-- The ways of access by name. -/
def named : List (String × Access) :=
  [("ro", readOnly), ("rw", readWrite), ("rwc", create), ("memory", memory)]

/-- How much is allowed. -/
def rank : Access → Nat
  | readOnly => 0
  | readWrite => 1
  | create => 2
  | memory => 3

/-- Whether one way of access may follow another: it allows no more, or needs no file. -/
def mayFollow (next previous : Access) : Bool :=
  next == memory || next.rank ≤ previous.rank

end Access

/-- What the options of a URI say. -/
structure Options where
  access : Access
  /-- The name of the file system. -/
  system : List UInt8
  model : Option (List UInt8)

namespace Options

/-- What holds without options. -/
def standard : Options :=
  ⟨.create, Text.utf8 "unix", none⟩

/-- Takes in an option. One of another name does not matter, and only the first model counts. -/
def withOption? (o : Options) (name value : List UInt8) : Option Options :=
  let isName (s : String) : Bool := name == Text.utf8 s
  if isName "mode" then do
    let (_, access) ← Access.named.find? fun entry => value == Text.utf8 entry.1
    guard (access.mayFollow o.access)
    return { o with access := access }
  else if isName "cache" then
    if value == Text.utf8 "shared" || value == Text.utf8 "private" then some o else none
  else if isName "vfs" then some { o with system := value }
  else if isName "modeof" then some { o with model := o.model <|> some value }
  else some o

/-- Takes in options, from the first to the last. One without a name does not count. -/
def withOptions? (o : Options) : List (List Char) → Option Options
  | [] => some o
  | piece :: rest => do
    let name := decode (piece.takeWhile (· != '='))
    let value := decode ((piece.dropWhile (· != '=')).drop 1)
    let o ← if name.isEmpty then some o else o.withOption? name value
    o.withOptions? rest

/-- The file systems that keep files; another one keeps all in memory. -/
def fileSystems : List String :=
  ["unix", "unix-dotfile", "unix-excl", "unix-none"]

/-- Whether databases are kept in files, if the file system is known. -/
def keepsFiles? (o : Options) : Option Bool :=
  if fileSystems.any (Text.utf8 · == o.system) then some (o.access != .memory)
  else if o.system == Text.utf8 "memdb" then some false
  else none

end Options

/-! ## Reading -/

/-- Whether a path stands for a database in memory: it is empty or `:memory:`. -/
def isInMemory (path : List UInt8) : Bool :=
  path.isEmpty || path == Text.utf8 ":memory:"

/-- The location at a path, with options. -/
def ofPath? (path : List UInt8) (o : Options) : Option Location := do
  let keepsFiles ← o.keepsFiles?
  return if keepsFiles && !isInMemory path then file path (o.access == .create) o.model else memory

/-- The location that a URI writes after `file:`. -/
def ofUri? (cs : List Char) : Option Location := do
  let cs := (← afterMachine? cs).takeWhile (· != '#')
  let options := (cs.dropWhile (· != '?')).drop 1
  let o ← Options.standard.withOptions? (cutAt '&' options)
  ofPath? (decode (cs.takeWhile (· != '?'))) o

/-- The location that a text writes. -/
def ofText? (s : String) : Option Location :=
  if s.toList.contains '\x00' then none
  else if s.toList.take 5 = "file:".toList then ofUri? (s.toList.drop 5)
  else ofPath? (Text.utf8 s) .standard

/-! ## Opening -/

/-- The most bytes in the path of a file. -/
def maxPath : Nat := 512

/-- Whether a file can be opened. If its path is no text, there is no such file yet, and one can be
made under any name that is not too long. -/
def canOpenFile (files : Files) (path : List UInt8) (create : Bool) : Bool :=
  match Text.ofUtf8? path with
  | some path => files.canOpen path create
  | none =>
    let isSlash (b : UInt8) : Bool := b == 47
    let name := path.reverse.takeWhile (!isSlash ·)
    let directory := Text.ofUtf8? (path.reverse.dropWhile (!isSlash ·)).reverse
    create && name.length ≤ Files.maxWord &&
      directory.any fun d => files.leadsToDirectory (Path.isAbsolute d) (Path.words d)

/-- Whether a database can be opened where it is kept. -/
def canOpen (files : Files) : Location → Bool
  | memory => true
  | file path create model =>
    path.length ≤ maxPath && canOpenFile files path create &&
      model.all fun model => (Text.ofUtf8? model).any files.isPresent

end Location

end BoundSql.Engine
