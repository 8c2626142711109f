import Mathlib.Data.List.Nodup
import BoundSql.Params
import BoundSql.Statement.Argument

/-!
# Pairs put one after another

When pairs are put one after another, the first pair of a name decides its place and the last one its
value. Binding pairs is putting them under their bare names, and collecting the pairs of a row is
putting those that are not null.

Main statements: `names_putAll` and `find?_putAll`, with `entries_bindAll` for bindings and
`collect_eq` for rows.
-/

namespace BoundSql

/-! ## Pairs -/

namespace Pairs

variable {α : Type}

/-- A name that is not there is put behind all others. -/
theorem put_of_not_mem {name : String} {ps : Pairs α} (h : name ∉ names ps) (value : α) :
    put name value ps = ps ++ [(name, value)] := by
  induction ps with
  | nil => rfl
  | cons p ps ih =>
    rw [names_cons, List.mem_cons, not_or] at h
    have hne : p.1 ≠ name := fun e => h.1 e.symm
    rw [put, if_neg hne, ih h.2]
    rfl

/-- Nothing is found under a name that is not there. -/
theorem find?_of_not_mem {name : String} {ps : Pairs α} (h : name ∉ names ps) :
    find? name ps = none := by
  rw [← Option.not_isSome_iff_eq_none, find?_isSome_iff]
  exact h

/-- Where names are distinct, every pair is found. -/
theorem find?_of_mem {name : String} {value : α} {ps : Pairs α} (hd : (names ps).Nodup)
    (h : (name, value) ∈ ps) : find? name ps = some value := by
  induction ps with
  | nil => cases h
  | cons p ps ih =>
    rw [names_cons, List.nodup_cons] at hd
    rcases List.mem_cons.1 h with rfl | h
    · simp [find?]
    · have hne : p.1 ≠ name := by
        rintro rfl
        exact hd.1 (List.mem_map.2 ⟨_, h, rfl⟩)
      rw [find?, if_neg hne]
      exact ih hd.2 h

/-- A name is found in the first list that has it. -/
theorem find?_append (name : String) (ps qs : Pairs α) :
    find? name (ps ++ qs) = (find? name ps).or (find? name qs) := by
  induction ps with
  | nil => rfl
  | cons p ps ih => by_cases h : p.1 = name <;> simp [find?, h, ih]

/-- What is found is one of the pairs. -/
theorem mem_of_find? {name : String} {value : α} {ps : Pairs α}
    (h : find? name ps = some value) : (name, value) ∈ ps := by
  induction ps with
  | nil => cases h
  | cons p ps ih =>
    by_cases hp : p.1 = name
    · rw [find?, if_pos hp] at h
      cases h
      cases hp
      exact .head _
    · rw [find?, if_neg hp] at h
      exact .tail _ (ih h)

/-- Where names are distinct, the pairs are what is found. -/
theorem mem_iff_find? {name : String} {value : α} {ps : Pairs α} (hd : (names ps).Nodup) :
    (name, value) ∈ ps ↔ find? name ps = some value :=
  ⟨find?_of_mem hd, mem_of_find?⟩

/-- Puts pairs one after another. -/
def putAll (acc pairs : Pairs α) : Pairs α :=
  pairs.foldl (fun acc pair => put pair.1 pair.2 acc) acc

@[simp]
theorem putAll_nil (acc : Pairs α) : putAll acc [] = acc := rfl

theorem putAll_cons (acc : Pairs α) (pair : String × α) (rest : Pairs α) :
    putAll acc (pair :: rest) = putAll (put pair.1 pair.2 acc) rest := rfl

/-- The names that were there keep their places, and the new ones follow in the order in which they
come first. -/
theorem names_putAll (acc pairs : Pairs α) :
    names (putAll acc pairs) =
      names acc ++ ((names pairs).filter (· ∉ names acc)).eraseDups := by
  induction pairs generalizing acc with
  | nil => simp
  | cons pair rest ih =>
    rw [putAll_cons, ih, names_put, names_cons]
    by_cases hmem : pair.1 ∈ names acc
    · rw [if_pos hmem, List.filter_cons_of_neg (by simpa using hmem)]
    · rw [if_neg hmem, List.filter_cons_of_pos (by simpa using hmem), List.eraseDups_cons,
        List.filter_filter, List.append_assoc, List.singleton_append]
      -- Behind a new name the same names are new as before, apart from that name itself.
      congr 3
      apply List.filter_congr
      intro name _
      by_cases hname : name = pair.1 <;> simp [hname]

/-- Putting pairs keeps names distinct. -/
theorem nodup_names_putAll {acc : Pairs α} (h : (names acc).Nodup) (pairs : Pairs α) :
    (names (putAll acc pairs)).Nodup := by
  induction pairs generalizing acc with
  | nil => exact h
  | cons pair rest ih => exact ih (nodup_names_put _ _ h)

/-- The last pair of a name decides its value, before what was there. -/
theorem find?_putAll (name : String) (acc pairs : Pairs α) :
    find? name (putAll acc pairs) = (find? name pairs.reverse).or (find? name acc) := by
  induction pairs generalizing acc with
  | nil => rfl
  | cons pair rest ih =>
    rw [putAll_cons, ih, List.reverse_cons, find?_append, Option.or_assoc]
    congr 1
    -- the first pair only counts if no later one has its name
    by_cases hname : pair.1 = name
    · subst hname
      simp [find?]
    · have hother : name ≠ pair.1 := fun h => hname h.symm
      simp [find?, hname, find?_put_of_ne hother]

/-- Pairs whose names are new and distinct are appended as they are. -/
theorem putAll_of_nodup {acc pairs : Pairs α} (h : (names (acc ++ pairs)).Nodup) :
    putAll acc pairs = acc ++ pairs := by
  induction pairs generalizing acc with
  | nil => simp
  | cons pair rest ih =>
    -- the first name is new, and the others have to be new beside it
    have hfresh : pair.1 ∉ names acc := by
      rw [names_append, List.nodup_append] at h
      intro hmem
      exact h.2.2 pair.1 hmem pair.1 (by simp) rfl
    have hrest : (names ((acc ++ [pair]) ++ rest)).Nodup := by simpa using h
    rw [putAll_cons, put_of_not_mem hfresh, ih hrest]
    simp

/-- The last pair of a name is the one behind which the name does not come again. -/
theorem find?_reverse_eq_some_iff {name : String} {value : α} {pairs : Pairs α} :
    find? name pairs.reverse = some value ↔
      ∃ before after, pairs = before ++ (name, value) :: after ∧ name ∉ names after := by
  induction pairs with
  | nil => simp [find?]
  | cons pair rest ih =>
    rw [List.reverse_cons, find?_append, Option.or_eq_some_iff, ih]
    constructor
    · -- The last pair of the name is among the later ones, or else it is the first.
      rintro (⟨before, after, rfl, habsent⟩ | ⟨hnone, hpair⟩)
      · exact ⟨pair :: before, after, rfl, habsent⟩
      · have habsent : name ∉ names rest := by
          intro hmem
          have hpresent : name ∈ names rest.reverse := by simpa [names] using hmem
          rw [← find?_isSome_iff, hnone] at hpresent
          cases hpresent
        have hmem := mem_of_find? hpair
        rw [List.mem_singleton] at hmem
        exact ⟨[], rest, by rw [hmem]; rfl, habsent⟩
    · rintro ⟨before, after, hpairs, habsent⟩
      -- the first pair is the last one of the name, or comes before that one
      cases before with
      | nil =>
        obtain ⟨rfl, rfl⟩ := List.cons.inj hpairs
        refine .inr ⟨find?_of_not_mem ?_, by simp [find?]⟩
        simpa [names] using habsent
      | cons first before =>
        obtain ⟨-, rfl⟩ := List.cons.inj hpairs
        exact .inl ⟨before, after, rfl, habsent⟩

/-- Of pairs with distinct names, the last one of a name is also the first. -/
theorem find?_reverse {pairs : Pairs α} (h : (names pairs).Nodup) (name : String) :
    find? name pairs.reverse = find? name pairs := by
  have hreverse : (names pairs.reverse).Nodup := by
    rwa [names, List.map_reverse, List.nodup_reverse]
  apply Option.ext
  intro value
  rw [← mem_iff_find? hreverse, ← mem_iff_find? h, List.mem_reverse]

end Pairs

/-! ## Bindings -/

/-- Pairs under their bare names. -/
def bare (pairs : List (String × Value)) : Pairs Value :=
  pairs.map fun (name, value) => (bareName name, value)

/-- Binding pairs puts them under their bare names. -/
theorem Params.entries_bindAll (p : Params) (pairs : List (String × Value)) :
    (p.bindAll pairs).entries = Pairs.putAll p.entries (bare pairs) := by
  induction pairs generalizing p with
  | nil => rfl
  | cons pair rest ih => exact ih (p.bind pair.1 pair.2)

/-- Taking off the markers of a row gives the row. -/
theorem bare_marked (row : Pairs Value) : bare (marked row) = row := by
  induction row with
  | nil => rfl
  | cons pair rest ih =>
    show (bareName (placeholder pair.1), pair.2) :: bare (marked rest) = pair :: rest
    rw [bareName_placeholder, ih]

/-! ## Rows -/

namespace RowData

/-- The pairs whose value is not null. -/
def written (pairs : Pairs Value) : Pairs Value :=
  pairs.filter fun pair => !pair.2.isNull

theorem written_cons (pair : String × Value) (rest : Pairs Value) :
    written (pair :: rest) =
      if pair.2.isNull then written rest else pair :: written rest := by
  cases hnull : pair.2.isNull <;> simp [written, hnull]

/-- Collecting pairs checks all their columns and puts those that are not null. -/
theorem collect_eq (c : Clause) (pairs acc : Pairs Value) :
    collect c pairs acc =
      if (Pairs.names pairs).any Text.isBlank then
        .error (.badDataShape c.keyword "empty column name")
      else .ok (Pairs.putAll acc (written pairs)) := by
  induction pairs generalizing acc with
  | nil => rfl
  | cons pair rest ih =>
    obtain ⟨column, value⟩ := pair
    rw [collect, written_cons, Pairs.names_cons, List.any_cons]
    -- a blank column is refused first, whatever stands behind it
    cases Text.isBlank column with
    | true => rfl
    | false =>
      rw [if_neg Bool.false_ne_true, ih, ih, Bool.false_or]
      cases value.isNull <;> rfl

end RowData

end BoundSql
