/-!
# Blank text

A name is blank when nothing is left of it after trimming. White space is Unicode's
`White_Space` property, so a no-break space is blank and a zero-width space is not.
-/

namespace BoundSql.Text

/-- The characters with Unicode's `White_Space` property. -/
def isWhiteSpace (c : Char) : Bool :=
  let n := c.toNat
  (9 ≤ n && n ≤ 13) || n == 0x20 || n == 0x85 || n == 0xA0 || n == 0x1680 ||
    (0x2000 ≤ n && n ≤ 0x200A) || n == 0x2028 || n == 0x2029 || n == 0x202F || n == 0x205F ||
    n == 0x3000

/-- Text without any character other than white space. -/
def isBlank (s : String) : Bool :=
  s.toList.all isWhiteSpace

/-- The characters from the first one on that is not white space. -/
def trimStart (cs : List Char) : List Char :=
  cs.dropWhile isWhiteSpace

theorem not_isBlank_iff {s : String} :
    isBlank s = false ↔ ∃ c ∈ s.toList, isWhiteSpace c = false := by
  simp [isBlank]

end BoundSql.Text
