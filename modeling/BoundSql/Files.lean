import BoundSql.Pairs
import BoundSql.Path

/-!
# Files

The files below a directory, each under its path. The directories are those that files lie in. A
path leads from word to word, and every word but the last has to name a directory.
-/

namespace BoundSql

/-- The contents of files by path. -/
abbrev Files := List (List String × String)

/-- Why a file cannot be read. -/
inductive FileFault where
  | notFound
  | notDirectory
  | isDirectory
  /-- The path or one of its words is too long. -/
  | tooLong
  /-- The path holds a null character. -/
  | badName
deriving DecidableEq, Repr

/-- The wording of a fault. -/
def FileFault.message : FileFault → String
  | notFound => "No such file or directory (os error 2)"
  | notDirectory => "Not a directory (os error 20)"
  | isDirectory => "Is a directory (os error 21)"
  | tooLong => "File name too long (os error 36)"
  | badName => "file name contained an unexpected NUL byte"

namespace Files

/-- Files given by path and contents; of two with one path the last one counts. -/
def ofList (files : List (String × String)) : Files :=
  (files.map fun (path, text) => (Path.components path, text)).reverse

/-- The contents of a file. -/
def contents? (files : Files) (place : List String) : Option String :=
  (files.find? (·.1 == place)).map (·.2)

/-- Whether there is a directory at a place. -/
def isDirectory (files : Files) (place : List String) : Bool :=
  place.isEmpty || files.any fun file => place.length < file.1.length && place.isPrefixOf file.1

/-- The most bytes in a word of a path. -/
def maxWord : Nat := 255

/-- The most bytes in a path. -/
def maxPath : Nat := 4095

/-- Why words lead to no file from outside the directory, where only the directories above it are
known. -/
def outside : List String → FileFault
  | [] => .isDirectory
  | word :: rest =>
    if Path.isIdle word || word = ".." then outside rest
    else if word.utf8ByteSize > maxWord then .tooLong
    else .notFound

/-- Reads the file that words lead to from a directory. -/
def walk (files : Files) (place : List String) : List String → Except FileFault String
  | [] => .error .isDirectory
  | word :: rest =>
    if Path.isIdle word then walk files place rest
    else if word = ".." then
      if place.isEmpty then .error (outside rest) else walk files place.dropLast rest
    else if word.utf8ByteSize > maxWord then .error .tooLong
    else
      let next := place ++ [word]
      if files.isDirectory next then walk files next rest
      else match files.contents? next, rest with
        | none, _ => .error .notFound
        | some text, [] => .ok text
        | some _, _ :: _ => .error .notDirectory

/-- Reads the file at a path. -/
def read (files : Files) (path : String) : Except FileFault String :=
  if path.toList.contains '\x00' then .error .badName
  else if path = "" then .error .notFound
  else if path.utf8ByteSize > maxPath then .error .tooLong
  else if Path.isAbsolute path then .error (outside (Path.words path))
  else files.walk [] (Path.words path)

/-- Whether there is a file or a directory at a path. -/
def isPresent (files : Files) (path : String) : Bool :=
  match files.read path with
  | .ok _ | .error .isDirectory => true
  | .error _ => false

/-- Whether words lead to a directory, from the root or from this one. -/
def leadsToDirectory (files : Files) (fromRoot : Bool) (words : List String) : Bool :=
  let end? := if fromRoot then .error (outside words) else files.walk [] words
  match end? with
  | .error .isDirectory => true
  | _ => false

/-- Whether a path leads to a file, or to no file yet in a directory where one may be made. -/
def canOpen (files : Files) (path : String) (create : Bool) : Bool :=
  match files.read path with
  | .ok _ => true
  | .error .notFound =>
    let words := Path.words path
    let last := words.getLastD ""
    create && !Path.isIdle last && last != ".." &&
      files.leadsToDirectory (Path.isAbsolute path) words.dropLast
  | .error _ => false

end Files

end BoundSql
