import BoundSql.Text.Join
import BoundSql.Text.LetterCase

/-!
# Snake case

A name is cut into words where a character is neither letter nor number, between a lower-case and
an upper-case letter, and before the last capital of a run of capitals that a lower-case letter
follows. A number counts as having the case of the letter before it. The words are written in
lower case with underscores between them.
-/

namespace BoundSql.Text

/-- The case of the letters read last; none at the start of a word. -/
inductive LastCase where
  | none
  | lower
  | upper
deriving DecidableEq

/-- The case after one more character. -/
def LastCase.after (last : LastCase) (c : Char) : LastCase :=
  if isLower c then .lower else if isUpper c then .upper else last

/-- The words of a run of letters and numbers. `word` is the current word, last letter first. -/
def wordsOfRun (last : LastCase) (word : List Char) : List Char → List (List Char)
  | [] => if word.isEmpty then [] else [word.reverse]
  | [c] => [(c :: word).reverse]
  | c :: next :: rest =>
    if last.after c = .lower && isUpper next then
      (c :: word).reverse :: wordsOfRun .none [] (next :: rest)
    else if last = .upper && isUpper c && isLower next then
      word.reverse :: wordsOfRun .none [c] (next :: rest)
    else wordsOfRun (last.after c) (c :: word) (next :: rest)

/-- Runs of letters and numbers; `run` is the current one, last character first. -/
def alphanumericRunsOf (run : List Char) : List Char → List (List Char)
  | [] => [run.reverse]
  | c :: rest =>
    if isAlphanumeric c then alphanumericRunsOf (c :: run) rest
    else run.reverse :: alphanumericRunsOf [] rest

/-- A word in lower case; a sigma at its end takes its final form. -/
def lowerCaseWord : List Char → List Char
  | [] => []
  | [c] => if c = 'Σ' then ['ς'] else lowerCase c
  | c :: rest => lowerCase c ++ lowerCaseWord rest

/-- The words of a name in lower case with underscores between them. -/
def snakeCase (name : String) : String :=
  let words := (alphanumericRunsOf [] name.toList).flatMap (wordsOfRun .none [])
  join "_" (words.map fun word => String.ofList (lowerCaseWord word))

end BoundSql.Text
