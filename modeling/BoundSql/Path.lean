import BoundSql.Text.Join

/-!
# Paths

Paths are text with slashes between words. Two paths are the same if they have the same words,
where empty words and dots count for nothing, except for a dot in front.
-/

namespace BoundSql.Path

/-- Text cut at its slashes; `word` is the current word, last character first. -/
def cut (word : List Char) : List Char → List (List Char)
  | [] => [word.reverse]
  | c :: rest => if c = '/' then word.reverse :: cut [] rest else cut (c :: word) rest

/-- The words of a path between its slashes, some of which may be empty. -/
def words (path : String) : List String :=
  (cut [] path.toList).map String.ofList

/-- Whether a path starts at the root. -/
def isAbsolute (path : String) : Bool :=
  path.toList.head? = some '/'

/-- Whether a word leads nowhere. -/
def isIdle (word : String) : Bool :=
  word = "" || word = "."

/-- The words of a path that lead somewhere, and a dot in front. -/
def components (path : String) : List String :=
  let leading := if (words path).head? = some "." then ["."] else []
  leading ++ (words path).filter (!isIdle ·)

/-- Whether two paths have the same words. -/
def same (p q : String) : Bool :=
  isAbsolute p == isAbsolute q && components p == components q

/-- A relative path below a directory; an absolute path stands for itself. -/
def join (directory path : String) : String :=
  if isAbsolute path then path
  else if directory = "" || directory.toList.getLast? = some '/' then directory ++ path
  else directory ++ "/" ++ path

/-- The words without the idle ones at the end, of which the first word is none. -/
def dropIdle : List String → List String
  | [] => []
  | first :: rest => first :: (rest.reverse.dropWhile isIdle).reverse

/-- The path of the directory that a path lies in. -/
def parent (path : String) : String :=
  let kept := dropIdle (dropIdle (words path)).dropLast
  if kept = [""] then "/" else Text.join "/" kept

end BoundSql.Path
