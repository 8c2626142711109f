import BoundSql.Declaration.Attribute

/-!
# Arguments of fields

The attributes of a field write a list of arguments: that it belongs to the primary key, that it is
skipped, or which column it is stored in. Within an attribute commas stand between the arguments,
and the arguments of several attributes count one after another. What the attributes say depends on
that list alone: a word counts if it occurs anywhere, and of several columns the last one counts.

Main statement: `FieldAttr.ofAttributes_eq_ok_iff`.
-/

namespace BoundSql.Declaration

/-- An argument of an attribute of a field. -/
inductive FieldArgument where
  | id
  | skip
  | column (name : String)
deriving DecidableEq, Repr

namespace FieldArgument

/-- The column that an argument names. -/
def column? : FieldArgument → Option String
  | column name => some name
  | _ => none

/-- The column that the last of several arguments names. -/
def lastColumn? (arguments : List FieldArgument) : Option String :=
  (arguments.filterMap column?).getLast?

theorem lastColumn?_append (as bs : List FieldArgument) :
    lastColumn? (as ++ bs) = (lastColumn? bs).or (lastColumn? as) := by
  rw [lastColumn?, List.filterMap_append, List.getLast?_append, lastColumn?, lastColumn?]

/-- Tokens write an argument. -/
inductive Writes : List Token → FieldArgument → Prop where
  | id : Writes [.ident "id"] .id
  | skip : Writes [.ident "skip"] .skip
  | column {joined suffixed : Bool} {source name : String} :
    Writes [.ident "column", .mark '=' joined, .string source name suffixed] (.column name)

/-- Tokens write arguments with commas between them; one more comma may follow the last. -/
inductive WritesAll : List Token → List FieldArgument → Prop where
  | none : WritesAll [] []
  | last {tokens : List Token} {a : FieldArgument} (only : Writes tokens a) : WritesAll tokens [a]
  | more {tokens rest : List Token} {joined : Bool} {a : FieldArgument}
    {arguments : List FieldArgument} (first : Writes tokens a) (others : WritesAll rest arguments) :
    WritesAll (tokens ++ .mark ',' joined :: rest) (a :: arguments)

/-- Attributes write arguments, those of one behind those of another. Only attributes called `orm`
count. -/
inductive WrittenBy : List Attribute → List FieldArgument → Prop where
  | none : WrittenBy [] []
  | other {a : Attribute} {rest : List Attribute} {arguments : List FieldArgument}
    (foreign : a.path ≠ "orm") (others : WrittenBy rest arguments) : WrittenBy (a :: rest) arguments
  | orm {a : Attribute} {rest : List Attribute} {tokens : List Token}
    {arguments more : List FieldArgument} (own : a.path = "orm") (list : a.arguments = .list tokens)
    (first : WritesAll tokens arguments) (others : WrittenBy rest more) :
    WrittenBy (a :: rest) (arguments ++ more)

end FieldArgument

namespace FieldAttr

open FieldArgument

/-- What arguments say together. -/
def ofArguments (arguments : List FieldArgument) : FieldAttr :=
  ⟨decide (.id ∈ arguments), decide (.skip ∈ arguments), lastColumn? arguments⟩

/-- What two lists say, merged, is what they say one behind the other. -/
theorem merge_ofArguments (as bs : List FieldArgument) :
    (ofArguments as).merge (ofArguments bs) = ofArguments (as ++ bs) := by
  simp [merge, ofArguments, lastColumn?_append]

/-! ## One argument -/

/-- Tokens that write an argument are taken off the front for it. -/
theorem argument_of_writes {tokens : List Token} {a : FieldArgument} (h : Writes tokens a)
    (rest : List Token) : argument (tokens ++ rest) = .ok (ofArguments [a], rest) := by
  cases h <;> rfl

/-- An argument is taken off the front of tokens if some of them write one. -/
theorem writes_of_argument {tokens rest : List Token} {said : FieldAttr}
    (h : argument tokens = .ok (said, rest)) :
    ∃ written a, tokens = written ++ rest ∧ Writes written a ∧ said = ofArguments [a] := by
  unfold argument at h
  split at h
  · -- Only a name can start an argument. The three words are asked for in turn.
    rename_i word after
    split at h
    · cases h
    · split at h
      · rename_i hword
        cases h
        exact ⟨[.ident word], .id, rfl, hword ▸ .id, rfl⟩
      · split at h
        · rename_i hword
          cases h
          exact ⟨[.ident word], .skip, rfl, hword ▸ .skip, rfl⟩
        · split at h
          · rename_i hword
            split at h
            · rename_i joined source name suffixed behind
              cases h
              exact ⟨[.ident word, .mark '=' joined, .string source name suffixed], .column name,
                rfl, hword ▸ .column, rfl⟩
            · cases h
          · cases h
  · cases h

/-! ## Several arguments -/

/-- An argument that nothing follows is all that is said. -/
theorem ofTokens_of_last {tokens : List Token} {said : FieldAttr}
    (h : argument tokens = .ok (said, [])) : ofTokens tokens = .ok said := by
  cases tokens with
  | nil => cases h
  | cons t ts =>
    rw [ofTokens]
    split <;> simp_all

/-- An argument with a comma behind it goes before what follows the comma. -/
theorem ofTokens_of_comma {tokens rest : List Token} {joined : Bool} {said : FieldAttr}
    (h : argument tokens = .ok (said, .mark ',' joined :: rest)) :
    ofTokens tokens = (ofTokens rest).map said.merge := by
  cases tokens with
  | nil => cases h
  | cons t ts =>
    rw [ofTokens]
    split <;> simp_all

/-- Tokens that write arguments say what these say together. -/
theorem ofTokens_of_writesAll {tokens : List Token} {arguments : List FieldArgument}
    (h : WritesAll tokens arguments) : ofTokens tokens = .ok (ofArguments arguments) := by
  induction h with
  | none => rw [ofTokens]; rfl
  | last only =>
    have hargument := argument_of_writes only []
    rw [List.append_nil] at hargument
    exact ofTokens_of_last hargument
  | @more tokens rest joined a arguments first others ih =>
    have hargument := argument_of_writes first (.mark ',' joined :: rest)
    rw [ofTokens_of_comma hargument, ih, Except.map, merge_ofArguments]
    rfl

/-- Tokens that say something write arguments that say it. -/
theorem writesAll_of_ofTokens {tokens : List Token} {said : FieldAttr}
    (h : ofTokens tokens = .ok said) :
    ∃ arguments, WritesAll tokens arguments ∧ said = ofArguments arguments := by
  -- One case for each way on after an argument: a failure, the end, a comma, anything else.
  fun_induction ofTokens tokens generalizing said with
  | case1 =>
    cases h
    exact ⟨[], .none, rfl⟩
  | case2 t ts e hargument => cases h
  | case3 t ts a hargument =>
    cases h
    obtain ⟨written, argument, htokens, hwrites, rfl⟩ := writes_of_argument hargument
    rw [List.append_nil] at htokens
    exact ⟨[argument], htokens ▸ .last hwrites, rfl⟩
  | case4 t ts a joined rest hargument _ ih =>
    obtain ⟨written, argument, htokens, hwrites, rfl⟩ := writes_of_argument hargument
    cases hrest : ofTokens rest with
    | error e =>
      rw [hrest] at h
      cases h
    | ok others =>
      rw [hrest] at h
      cases h
      obtain ⟨arguments, hothers, rfl⟩ := ih hrest
      exact ⟨argument :: arguments, htokens ▸ .more hwrites hothers, merge_ofArguments _ _⟩
  | case5 => cases h

/-! ## Several attributes -/

theorem ormArguments_of_ne {a : Attribute} (h : a.path ≠ "orm") : a.ormArguments = Option.none := by
  rw [Attribute.ormArguments, if_neg h]

theorem ormArguments_of_list {a : Attribute} {tokens : List Token} (h : a.path = "orm")
    (hlist : a.arguments = .list tokens) : a.ormArguments = some (.ok tokens) := by
  rw [Attribute.ormArguments, if_pos h, hlist]

/-- The attributes of a field are accepted if they write arguments, and then they say what these
arguments say together. -/
theorem ofAttributes_eq_ok_iff {attributes : List Attribute} {said : FieldAttr} :
    ofAttributes attributes = .ok said ↔
      ∃ arguments, WrittenBy attributes arguments ∧ said = ofArguments arguments := by
  constructor
  · intro h
    induction attributes generalizing said with
    | nil =>
      cases h
      exact ⟨[], .none, rfl⟩
    | cons a rest ih =>
      by_cases hown : a.path = "orm"
      · cases hlist : a.arguments with
        | list tokens =>
          rw [ofAttributes, ormArguments_of_list hown hlist] at h
          cases hfirst : ofTokens tokens with
          | error e =>
            simp [hfirst, Except.bind] at h
          | ok first =>
            cases hrest : ofAttributes rest with
            | error e => simp [hfirst, hrest, Except.bind, Except.map] at h
            | ok others =>
              simp only [hfirst, hrest, Except.bind, Except.map] at h
              cases h
              obtain ⟨arguments, hwrites, rfl⟩ := writesAll_of_ofTokens hfirst
              obtain ⟨more, hothers, rfl⟩ := ih hrest
              exact ⟨arguments ++ more, .orm hown hlist hwrites hothers, merge_ofArguments _ _⟩
        | none | value tokens =>
          simp [ofAttributes, Attribute.ormArguments, hown, hlist, Except.bind] at h
      · rw [ofAttributes, ormArguments_of_ne hown] at h
        obtain ⟨arguments, hothers, rfl⟩ := ih h
        exact ⟨arguments, .other hown hothers, rfl⟩
  · rintro ⟨arguments, hwritten, rfl⟩
    induction hwritten with
    | none => rfl
    | other foreign others ih => rw [ofAttributes, ormArguments_of_ne foreign, ih]
    | orm own list first others ih =>
      rw [ofAttributes, ormArguments_of_list own list]
      simp only [Except.bind, ofTokens_of_writesAll first, ih, Except.map, merge_ofArguments]

end FieldAttr

end BoundSql.Declaration
