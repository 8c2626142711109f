import BoundSql.Proofs.Collapse
import BoundSql.Proofs.Condition.Documents
import BoundSql.Statement.Builder

/-!
# Rows in normal form

Row data is given in any order, with nulls and with repeated columns. What is written is its normal
form: every column that has a value other than null, where it first has one, with the last one it
has. Of data that has no normal form, or a blank column, nothing is written.

Main statement: `rows_are_normalised`. It rests on `bindable_of_presents`: the nulls are left out
first, and what is left is put pair after pair.
-/

namespace BoundSql

namespace RowData

/-! ## Given pairs -/

/-- The columns with their values that row data gives. An object gives them only if all its members
are scalars. -/
inductive Presents : RowData → Pairs Value → Prop where
  | mapping (pairs : Pairs Value) : Presents (.mapping pairs) pairs
  | entity (e : Entity) : Presents (.entity e) e.columns
  | object {members : List (String × Json)} {pairs : Pairs Value}
    (scalars : List.Forall₂ Value.IsMember members pairs) :
    Presents (.json (.object members)) pairs

/-- Members that are all scalars are read as their values, in the order of the object. -/
theorem scalarMembers_of_forall₂ {c : Clause} {members : List (String × Json)}
    {pairs : Pairs Value} (h : List.Forall₂ Value.IsMember members pairs) :
    scalarMembers c members = .ok pairs := by
  induction h with
  | nil => rfl
  | @cons member pair members pairs hfirst hrest ih =>
    obtain ⟨column, j⟩ := member
    obtain ⟨name, value⟩ := pair
    -- The member and its pair have the same column, and the scalar is read as the value.
    obtain ⟨rfl, hvalue⟩ : column = name ∧ Value.ofJson? j = some value := hfirst
    simp only [scalarMembers, hvalue, ih]
    rfl

/-- The members of an object are read as values, or one of them is refused. -/
theorem scalarMembers_spec (c : Clause) (members : List (String × Json)) :
    (∃ pairs, List.Forall₂ Value.IsMember members pairs) ∨
      ∃ reason, scalarMembers c members = .error (.badDataShape c.keyword reason) := by
  induction members with
  | nil => exact .inl ⟨[], .nil⟩
  | cons member rest ih =>
    obtain ⟨column, j⟩ := member
    cases hvalue : Value.ofJson? j with
    | none => exact .inr ⟨_, by simp only [scalarMembers, hvalue]; rfl⟩
    | some value =>
      -- The first member is a scalar, so the rest decides.
      rcases ih with ⟨pairs, hrest⟩ | ⟨reason, hrest⟩
      · exact .inl ⟨(column, value) :: pairs, .cons ⟨rfl, hvalue⟩ hrest⟩
      · exact .inr ⟨reason, by simp only [scalarMembers, hvalue, hrest]; rfl⟩

/-- What row data gives is read for any clause. -/
theorem pairs_of_presents {data : RowData} {pairs : Pairs Value} (h : data.Presents pairs)
    (c : Clause) : data.pairs c = .ok pairs := by
  cases h with
  | mapping => rfl
  | entity => rfl
  | object scalars => exact scalarMembers_of_forall₂ scalars

/-- Row data that gives no pairs is refused. -/
theorem presents_or_refused (data : RowData) (c : Clause) :
    (∃ pairs, data.Presents pairs) ∨
      ∃ reason, data.bindable c = .error (.badDataShape c.keyword reason) := by
  have refused {reason : String} (h : data.pairs c = .error (.badDataShape c.keyword reason)) :
      ∃ reason, data.bindable c = .error (.badDataShape c.keyword reason) :=
    ⟨reason, by rw [bindable, h]⟩
  cases data with
  | mapping pairs => exact .inl ⟨pairs, .mapping pairs⟩
  | entity e => exact .inl ⟨e.columns, .entity e⟩
  | json j =>
    cases j with
    | object members =>
      rcases scalarMembers_spec c members with ⟨pairs, hscalars⟩ | ⟨reason, hreason⟩
      · exact .inl ⟨pairs, .object hscalars⟩
      · exact .inr (refused hreason)
    | _ => exact .inr (refused rfl)

/-! ## Leaving nulls out and collapsing -/

theorem mem_written {pair : String × Value} {pairs : Pairs Value} :
    pair ∈ written pairs ↔ pair ∈ pairs ∧ pair.2 ≠ .null := by
  simp [written, Value.isNull_eq_false_iff]

theorem written_eq_nil_iff {pairs : Pairs Value} :
    written pairs = [] ↔ ∀ pair ∈ pairs, pair.2 = .null := by
  simp [written]

/-- What becomes of row data that gives its pairs: a blank column is refused first, then a row
without a value. -/
theorem bindable_of_presents {data : RowData} {pairs : Pairs Value} (h : data.Presents pairs)
    (c : Clause) :
    data.bindable c =
      if (Pairs.names pairs).any Text.isBlank then
        .error (.badDataShape c.keyword "empty column name")
      else if written pairs = [] then .error (.badDataShape c.keyword "no non-null values")
      else .ok (Pairs.putAll [] (written pairs)) := by
  rw [bindable, pairs_of_presents h]
  simp only [collect_eq]
  cases (Pairs.names pairs).any Text.isBlank with
  | true => rfl
  | false =>
    simp only [Bool.false_eq_true, if_false]
    by_cases hnil : written pairs = []
    · rw [if_pos hnil, hnil]
      rfl
    · rw [if_neg hnil]
      -- Putting a pair leaves something, so the row is not empty.
      split
      · rename_i hrow
        cases hrow
      · rename_i hrow
        have hnames := Pairs.names_putAll [] (written pairs)
        rw [Except.ok.inj hrow] at hnames
        cases hpairs : written pairs with
        | nil => exact absurd hpairs hnil
        | cons pair rest =>
          rw [hpairs] at hnames
          simp [List.eraseDups_cons] at hnames
      · rename_i hrow
        rw [← Except.ok.inj hrow]

theorem any_isBlank_eq_false_iff {names : List String} :
    names.any Text.isBlank = false ↔ ∀ column ∈ names, Text.isBlank column = false := by
  simp

/-- Row data is written if it gives pairs, of which no column is blank and some value is not
null. -/
theorem bindable_eq_ok_iff {data : RowData} {c : Clause} {row : Pairs Value} :
    data.bindable c = .ok row ↔
      ∃ pairs, data.Presents pairs ∧
        (∀ column ∈ Pairs.names pairs, Text.isBlank column = false) ∧
        (∃ pair ∈ pairs, pair.2 ≠ .null) ∧ row = Pairs.putAll [] (written pairs) := by
  have hsome {pairs : Pairs Value} :
      (∃ pair ∈ pairs, pair.2 ≠ .null) ↔ ¬ written pairs = [] := by
    simp [written_eq_nil_iff]
  simp only [hsome, ← any_isBlank_eq_false_iff]
  constructor
  · intro hrow
    rcases data.presents_or_refused c with ⟨pairs, hpairs⟩ | ⟨reason, hrefused⟩
    · rw [bindable_of_presents hpairs] at hrow
      refine ⟨pairs, hpairs, ?_⟩
      -- Only the last of the three branches gives a row.
      split at hrow
      · cases hrow
      · rename_i hblank
        split at hrow
        · cases hrow
        · rename_i hnil
          cases hrow
          exact ⟨by simpa using hblank, hnil, rfl⟩
    · rw [hrefused] at hrow
      cases hrow
  · rintro ⟨pairs, hpairs, hblank, hnil, rfl⟩
    rw [bindable_of_presents hpairs, hblank, if_neg Bool.false_ne_true, if_neg hnil]

/-- Row data that is refused is refused for its shape. -/
theorem exists_of_bindable_error {data : RowData} {c : Clause} {e : QueryError}
    (h : data.bindable c = .error e) : ∃ reason, e = .badDataShape c.keyword reason := by
  rcases data.presents_or_refused c with ⟨pairs, hpairs⟩ | ⟨reason, hrefused⟩
  · rw [bindable_of_presents hpairs] at h
    split at h
    · cases h
      exact ⟨_, rfl⟩
    · split at h
      · cases h
        exact ⟨_, rfl⟩
      · cases h
  · rw [hrefused] at h
    cases h
    exact ⟨reason, rfl⟩

/-! ## Normal form -/

/-- The last value of a column that is not null. -/
def IsLast (pairs : Pairs Value) (column : String) (value : Value) : Prop :=
  ∃ before after, pairs = before ++ (column, value) :: after ∧ value ≠ .null ∧
    ∀ later ∈ after, later.1 = column → later.2 = .null

/-- The row has the columns with a value other than null, each once, in the order in which they
first have one, and each with the last one that it has. -/
structure NormalForm (pairs row : Pairs Value) : Prop where
  distinct : (Pairs.names row).Nodup
  columns : ∀ column, column ∈ Pairs.names row ↔ ∃ value, (column, value) ∈ pairs ∧ value ≠ .null
  order : Pairs.names row = (Pairs.names (written pairs)).eraseDups
  values : ∀ column value, (column, value) ∈ row ↔ IsLast pairs column value

/-- The last value of a column that is not null is what the column has in the pairs that are
written, read from the back. -/
theorem isLast_iff {pairs : Pairs Value} {column : String} {value : Value} :
    IsLast pairs column value ↔ Pairs.find? column (written pairs).reverse = some value := by
  rw [Pairs.find?_reverse_eq_some_iff]
  constructor
  · -- Behind the last value the column has nulls only, and these are not written.
    rintro ⟨before, after, rfl, hvalue, hlater⟩
    refine ⟨written before, written after, ?_, ?_⟩
    · have hkept : (!value.isNull) = true := by simpa [Value.isNull_eq_false_iff] using hvalue
      simp [written, hkept]
    · intro hmem
      obtain ⟨later, hlater', rfl⟩ := List.mem_map.1 hmem
      obtain ⟨hafter, hnull⟩ := mem_written.1 hlater'
      exact hnull (hlater later hafter rfl)
  · rintro ⟨keptBefore, keptAfter, hwritten, habsent⟩
    -- The pairs fall apart where what is written of them does.
    obtain ⟨before, rest, rfl, hbefore, hrest⟩ := List.filter_eq_append_iff.1 hwritten
    obtain ⟨nulls, after, rfl, hnulls, hvalue, hafter⟩ := List.filter_eq_cons_iff.1 hrest
    refine ⟨before ++ nulls, after, by simp, by simpa [Value.isNull_eq_false_iff] using hvalue, ?_⟩
    intro later hlater hcolumn
    by_contra hnull
    apply habsent
    rw [← hafter, ← hcolumn]
    exact List.mem_map_of_mem (mem_written.2 ⟨hlater, hnull⟩)

/-- Putting the written pairs one after another leads to the normal form. -/
theorem normalForm_putAll (pairs : Pairs Value) :
    NormalForm pairs (Pairs.putAll [] (written pairs)) := by
  have horder : Pairs.names (Pairs.putAll [] (written pairs)) =
      (Pairs.names (written pairs)).eraseDups := by
    rw [Pairs.names_putAll]
    simp
  have hnil : (Pairs.names ([] : Pairs Value)).Nodup := List.nodup_nil
  have hdistinct : (Pairs.names (Pairs.putAll [] (written pairs))).Nodup :=
    Pairs.nodup_names_putAll hnil _
  -- Names and order are those of the written pairs; the values are found from the back.
  refine ⟨hdistinct, ?_, horder, ?_⟩
  · intro column
    rw [horder, List.mem_eraseDups]
    constructor
    · intro hmem
      obtain ⟨pair, hpair, rfl⟩ := List.mem_map.1 hmem
      exact ⟨pair.2, mem_written.1 hpair⟩
    · rintro ⟨value, hvalue⟩
      exact List.mem_map_of_mem (f := Prod.fst) (mem_written.2 hvalue)
  · intro column value
    rw [Pairs.mem_iff_find? hdistinct, Pairs.find?_putAll, isLast_iff]
    simp [Pairs.find?]

/-- A row that is written is the normal form of the pairs given. -/
theorem normalForm_of_bindable {data : RowData} {pairs row : Pairs Value} {c : Clause}
    (hpairs : data.Presents pairs) (h : data.bindable c = .ok row) : NormalForm pairs row := by
  obtain ⟨pairs', hpairs', -, -, rfl⟩ := bindable_eq_ok_iff.1 h
  -- What data gives does not depend on who asks.
  obtain rfl : pairs = pairs' :=
    Except.ok.inj ((pairs_of_presents hpairs c).symm.trans (pairs_of_presents hpairs' c))
  exact normalForm_putAll pairs

/-- A row that is written has no null, no repeated column and no blank one, so that nothing is left
to change. -/
theorem bindable_mapping_of_bindable {data : RowData} {c : Clause} {row : Pairs Value}
    (h : data.bindable c = .ok row) : (RowData.mapping row).bindable c = .ok row := by
  obtain ⟨pairs, -, hblank, ⟨pair, hpair, hnull⟩, rfl⟩ := bindable_eq_ok_iff.1 h
  have hnormal := normalForm_putAll pairs
  generalize Pairs.putAll [] (written pairs) = row at hnormal
  have hwritten : written row = row := by
    -- No value of a normal form is null, so writing it leaves nothing out.
    refine List.filter_eq_self.2 ?_
    rintro ⟨column, value⟩ hmem
    obtain ⟨before, after, -, hvalue, -⟩ := (hnormal.values column value).1 hmem
    simpa [Value.isNull_eq_false_iff] using hvalue
  refine bindable_eq_ok_iff.2 ⟨row, .mapping row, ?_, ?_, ?_⟩
  · intro column hcolumn
    obtain ⟨value, hvalue, -⟩ := (hnormal.columns column).1 hcolumn
    exact hblank column (List.mem_map_of_mem (f := Prod.fst) hvalue)
  · -- The value that kept the data from being refused is still there.
    obtain ⟨first, hfirst, -⟩ :=
      List.mem_map.1 ((hnormal.columns pair.1).2 ⟨pair.2, hpair, hnull⟩)
    rw [← hwritten] at hfirst
    exact ⟨first, mem_written.1 hfirst⟩
  · rw [hwritten, Pairs.putAll_of_nodup (by simpa using hnormal.distinct), List.nil_append]

/-! ## Calls -/

/-- Row data that gives the same pairs is written or refused alike. -/
theorem bindable_congr {data other : RowData} {pairs : Pairs Value} (hdata : data.Presents pairs)
    (hother : other.Presents pairs) (c : Clause) : data.bindable c = other.bindable c := by
  rw [bindable_of_presents hdata, bindable_of_presents hother]

/-- Row data is written exactly if it gives pairs, an object only scalars, of which no column is
blank, not even one that is null, and some value is not null. What is written is the normal form of
the pairs, and what keeps data from being written is its shape. Data that gives the same pairs does
the same to every builder, in VALUES and in SET, and a row that is written is its own normal
form. -/
theorem rows_are_normalised (data : RowData) (c : Clause) :
    ((∃ row, data.bindable c = .ok row) ↔
      ∃ pairs, data.Presents pairs ∧
        (∀ column ∈ Pairs.names pairs, Text.isBlank column = false) ∧
        ∃ pair ∈ pairs, pair.2 ≠ .null) ∧
    (∀ pairs row, data.Presents pairs → data.bindable c = .ok row → NormalForm pairs row) ∧
    (∀ e, data.bindable c = .error e → ∃ reason, e = .badDataShape c.keyword reason) ∧
    (∀ pairs other, data.Presents pairs → other.Presents pairs →
      ∀ b : Builder, Builder.values data b = Builder.values other b ∧
        Builder.set data b = Builder.set other b) ∧
    (∀ row, data.bindable c = .ok row → (RowData.mapping row).bindable c = .ok row) := by
  refine ⟨?_, ?_, ?_, ?_, ?_⟩
  · simp only [bindable_eq_ok_iff]
    constructor
    · rintro ⟨row, pairs, hpairs, hblank, hsome, -⟩
      exact ⟨pairs, hpairs, hblank, hsome⟩
    · rintro ⟨pairs, hpairs, hblank, hsome⟩
      exact ⟨_, pairs, hpairs, hblank, hsome, rfl⟩
  · intro pairs row hpairs hrow
    exact normalForm_of_bindable hpairs hrow
  · intro e he
    exact exists_of_bindable_error he
  · intro pairs other hdata hother b
    constructor
    · rw [Builder.values, Builder.values, bindable_congr hdata hother]
    · rw [Builder.set, Builder.set, bindable_congr hdata hother]
  · intro row hrow
    exact bindable_mapping_of_bindable hrow

/-- Pairs with a null before the first value of a column and other ones behind its last. -/
def interleaved : Pairs Value :=
  [("body", .null), ("title", .text "a"), ("views", .int 3), ("title", .null),
    ("body", .text "b"), ("views", .bool true), ("body", .null), ("title", .null)]

/-- What is written of those pairs. -/
def collapsed : Pairs Value :=
  [("title", .text "a"), ("views", .bool true), ("body", .text "b")]

theorem interleaved_is_normalised :
    (RowData.mapping interleaved).bindable .updateSet = .ok collapsed ∧
      NormalForm interleaved collapsed ∧
      (RowData.mapping collapsed).bindable .updateSet = .ok collapsed ∧
      Builder.set (.mapping interleaved) = Builder.set (.entity ⟨interleaved, ["title"]⟩) := by
  have hrow : (RowData.mapping interleaved).bindable .updateSet = .ok collapsed := by rfl
  have hmapping := Presents.mapping interleaved
  have hentity := Presents.entity ⟨interleaved, ["title"]⟩
  obtain ⟨-, hnormal, -, hsame, hfixed⟩ := rows_are_normalised (.mapping interleaved) .updateSet
  refine ⟨hrow, hnormal _ _ hmapping hrow, hfixed _ hrow, ?_⟩
  funext b
  exact (hsame _ _ hmapping hentity b).2

/-- A blank column is refused even where it is null. -/
example :
    (RowData.mapping [("title", .text "a"), (" ", .null)]).bindable .insertValues =
      .error (.badDataShape "(...) VALUES (...)" "empty column name") := by
  rfl

end RowData

end BoundSql
