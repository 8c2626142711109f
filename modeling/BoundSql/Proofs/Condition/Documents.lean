import BoundSql.Filter
import BoundSql.Proofs.Condition.Naming

/-!
# Documents that write conditions

A condition is written as a document: a comparison as a list of its column, its operator and its
value, a group as an object whose only member is the list of its members. The reader takes exactly
the documents of this grammar, each as the condition that it writes.

Main statement: `reader_accepts_what_writes_a_condition`. It rests on `ofJson_spec`, one case for
each place where a document can leave the grammar, and on `ofJson_of_writes`.
-/

namespace BoundSql

/-! ## Values -/

/-- A document that is neither a list nor an object. -/
def Json.IsScalar : Json → Prop
  | .array _ | .object _ => False
  | _ => True

namespace Value

/-- A value as a document. A float that is not finite has no number of its own there, and a blob is
a list of numbers. -/
def document : Value → Json
  | null => .null
  | bool b => .bool b
  | int n => .integer n.toInt
  | float x => if x.isFinite then .real x else .null
  | text s => .string s
  | blob bytes => .array (bytes.map fun b => .integer b.toNat)

/-- A value that has a scalar document of its own. -/
def IsDocumented : Value → Prop
  | null | bool _ | int _ | text _ => True
  | float x => x.isFinite = true
  | blob _ => False

instance : DecidablePred IsDocumented
  | .null | .bool _ | .int _ | .text _ => .isTrue trivial
  | .float x => inferInstanceAs (Decidable (x.isFinite = true))
  | .blob _ => .isFalse id

/-- A value with a document of its own is read back from it. -/
theorem ofJson?_document {v : Value} (h : v.IsDocumented) : ofJson? v.document = some v := by
  cases v with
  | int n => rw [document, ofJson?, int64?_eq_some_iff.2 rfl]
  | float x =>
    have hfinite : x.isFinite = true := h
    rw [document, if_pos hfinite, ofJson?]
  | blob bytes => exact absurd h id
  | _ => rfl

/-- What is read as a value is a scalar. -/
theorem isScalar_of_ofJson? {j : Json} {v : Value} (h : ofJson? j = some v) : j.IsScalar := by
  cases j with
  | array items => cases h
  | object members => cases h
  | _ => trivial

/-- Every scalar is read as some value. -/
theorem exists_of_isScalar {j : Json} (h : j.IsScalar) : ∃ v, ofJson? j = some v := by
  rw [← Option.isSome_iff_exists, Option.isSome_iff_ne_none, Ne, ofJson?_eq_none_iff]
  rintro (⟨items, rfl⟩ | ⟨members, rfl⟩)
  · exact h
  · exact h

/-- A member of an object stands for a name with a value. -/
def IsMember (member : String × Json) (pair : String × Value) : Prop :=
  member.1 = pair.1 ∧ ofJson? member.2 = some pair.2

end Value

/-! ## Conditions -/

/-- A connective is read from its keyword. -/
theorem Connective.ofKeyword?_keyword (k : Connective) : ofKeyword? k.keyword = some k := by
  cases k <;> rfl

/-- What is read as a connective is its keyword. -/
theorem Connective.keyword_of_ofKeyword? {key : String} {k : Connective}
    (h : ofKeyword? key = some k) : k.keyword = key := by
  unfold ofKeyword? at h
  split at h
  · rename_i hkey
    cases h
    exact hkey.symm
  · split at h
    · rename_i hkey
      cases h
      exact hkey.symm
    · cases h

namespace Condition

/-- The grammar of conditions: a list of a column, an operator and a scalar, or an object with one
member that is called like a connective and is a list of such documents. -/
inductive IsCondition : Json → Prop where
  | comparison {column operator : String} {value : Json} (scalar : value.IsScalar) :
    IsCondition (.array [.string column, .string operator, value])
  | group {connective : Connective} {items : List Json} (members : ∀ j ∈ items, IsCondition j) :
    IsCondition (.object [(connective.keyword, .array items)])

mutual

/-- A document writes a condition. -/
inductive Writes : Json → Condition → Prop where
  | comparison {column operator : String} {j : Json} {value : Value}
    (scalar : Value.ofJson? j = some value) :
    Writes (.array [.string column, .string operator, j]) (.compare column operator value)
  | group {connective : Connective} {items : List Json} {members : List Condition}
    (each : WritesEach items members) :
    Writes (.object [(connective.keyword, .array items)]) (.group connective members)

/-- Documents write conditions one by one. -/
inductive WritesEach : List Json → List Condition → Prop where
  | nil : WritesEach [] []
  | cons {j : Json} {c : Condition} {items : List Json} {members : List Condition}
    (first : Writes j c) (rest : WritesEach items members) :
    WritesEach (j :: items) (c :: members)

end

mutual

/-- What writes a condition follows the grammar. -/
theorem Writes.isCondition : ∀ {j : Json} {c : Condition}, Writes j c → IsCondition j
  | _, _, .comparison scalar => .comparison (Value.isScalar_of_ofJson? scalar)
  | _, _, .group each => .group each.isCondition

/-- Each document of a list that writes conditions follows the grammar. -/
theorem WritesEach.isCondition : ∀ {items : List Json} {members : List Condition},
    WritesEach items members → ∀ j ∈ items, IsCondition j
  | _, _, .nil => fun _ h => nomatch h
  | _, _, .cons first rest => fun j h => by
    rcases List.mem_cons.1 h with rfl | h
    · exact first.isCondition
    · exact rest.isCondition j h

end

/-! ## Reading -/

mutual

theorem ofJson_of_writes : ∀ {j : Json} {c : Condition}, Writes j c → ofJson j = .ok c
  | _, _, .comparison scalar => by simp [ofJson, ofItems, Json.text?, scalar]
  | _, _, .group each => by
    simp [ofJson, ofGroup, Connective.ofKeyword?_keyword, ofEach_of_writes each, Except.map]

theorem ofEach_of_writes : ∀ {items : List Json} {members : List Condition},
    WritesEach items members → ofEach items = .ok members
  | _, _, .nil => by rw [ofEach]
  | _, _, .cons first rest => by
    simp [ofEach, ofJson_of_writes first, ofEach_of_writes rest, Except.map]

end

/-- Items that are not a column, an operator and a scalar are refused. -/
theorem ofItems_spec (items : List Json) :
    (∃ c, ofItems items = .ok c ∧ Writes (.array items) c) ∨
      (¬ IsCondition (.array items) ∧
        ∃ reason, ofItems items = .error (.badConditionShape reason)) := by
  by_cases h : IsCondition (.array items)
  · -- a document of the grammar is read as what it writes
    obtain @⟨column, operator, value, hscalar⟩ := h
    obtain ⟨v, hv⟩ := Value.exists_of_isScalar hscalar
    have hwrites : Writes (.array [.string column, .string operator, value])
        (.compare column operator v) := .comparison hv
    have hread := ofJson_of_writes hwrites
    rw [ofJson] at hread
    exact .inl ⟨_, hread, hwrites⟩
  · refine .inr ⟨h, ?_⟩
    -- outside the grammar the count of the items is wrong or one of them is
    unfold ofItems
    split
    · rename_i column operator value
      split
      · exact ⟨_, rfl⟩
      · rename_i column' hcolumn
        split
        · exact ⟨_, rfl⟩
        · rename_i operator' hoperator
          split
          · exact ⟨_, rfl⟩
          · rename_i v hv
            -- All three items are as the grammar has them.
            cases column <;> cases hcolumn
            cases operator <;> cases hoperator
            exact absurd (.comparison (Value.isScalar_of_ofJson? hv)) h
    · exact ⟨_, rfl⟩

/-- A document that is no list, and no object with a list as its only member, is refused. -/
theorem ofJson_of_not_list {j : Json} (harray : ∀ items, j ≠ .array items)
    (hgroup : ∀ key items, j ≠ .object [(key, .array items)]) :
    ¬ IsCondition j ∧ ∃ reason, ofJson j = .error (.badConditionShape reason) := by
  constructor
  · rintro (_ | _)
    · exact harray _ rfl
    · exact hgroup _ _ rfl
  · cases j with
    | array items => exact absurd rfl (harray items)
    | object members =>
      -- none, one or several members; only one may be a group, and then not without a list
      rcases members with _ | ⟨⟨key, children⟩, _ | ⟨second, rest⟩⟩
      · exact ⟨_, by simp only [ofJson]; rfl⟩
      · rw [ofJson]
        cases children with
        | array items => exact absurd rfl (hgroup key items)
        | _ =>
          simp only [ofGroup]
          split
          · exact ⟨_, rfl⟩
          · exact ⟨_, rfl⟩
      · exact ⟨_, by simp only [ofJson]; rfl⟩
    | _ => exact ⟨_, by simp only [ofJson]; rfl⟩

mutual

/-- A document is read as a condition that it writes, or it is outside the grammar and refused. -/
theorem ofJson_spec (j : Json) :
    (∃ c, ofJson j = .ok c ∧ Writes j c) ∨
      (¬ IsCondition j ∧ ∃ reason, ofJson j = .error (.badConditionShape reason)) := by
  match j with
  | .array items =>
    rw [ofJson]
    exact ofItems_spec items
  | .object [(key, .array items)] =>
    rw [ofJson, ofGroup]
    -- the only member has to be called like a connective
    cases hkey : Connective.ofKeyword? key with
    | none =>
      refine .inr ⟨?_, _, rfl⟩
      rintro ⟨⟩
      rw [Connective.ofKeyword?_keyword] at hkey
      cases hkey
    | some connective =>
      have hname := Connective.keyword_of_ofKeyword? hkey
      -- and its items are a group exactly if they all follow the grammar
      rcases ofEach_spec items with ⟨members, hread, heach⟩ | ⟨houtside, reason, hread⟩
      · refine .inl ⟨.group connective members, by simp [hread, Except.map], ?_⟩
        rw [← hname]
        exact .group heach
      · refine .inr ⟨?_, reason, by simp [hread, Except.map]⟩
        rintro ⟨⟩
        rename_i hmembers
        exact houtside hmembers
  | .object [] | .object (_ :: _ :: _) | .object [(_, .null)] | .object [(_, .bool _)]
  | .object [(_, .integer _)] | .object [(_, .real _)] | .object [(_, .string _)]
  | .object [(_, .object _)] | .null | .bool _ | .integer _ | .real _ | .string _ =>
    exact .inr (ofJson_of_not_list (by simp) (by simp))

/-- Documents are read as the conditions that they write, or one of them is outside the grammar and
all are refused. -/
theorem ofEach_spec (items : List Json) :
    (∃ members, ofEach items = .ok members ∧ WritesEach items members) ∨
      ((¬ ∀ j ∈ items, IsCondition j) ∧
        ∃ reason, ofEach items = .error (.badConditionShape reason)) := by
  match items with
  | [] => exact .inl ⟨[], by rw [ofEach], .nil⟩
  | j :: rest =>
    -- the first document that does not follow the grammar refuses all
    rcases ofJson_spec j with ⟨c, hread, hwrites⟩ | ⟨houtside, reason, hread⟩
    · rcases ofEach_spec rest with ⟨members, hreads, heach⟩ | ⟨houtside, reason, hreads⟩
      · exact .inl ⟨c :: members, by simp [ofEach, hread, hreads, Except.map], .cons hwrites heach⟩
      · refine .inr ⟨fun h => houtside fun k hk => h k (.tail _ hk), reason, ?_⟩
        simp [ofEach, hread, hreads, Except.map]
    · exact .inr ⟨fun h => houtside (h j (.head _)), reason, by simp [ofEach, hread]⟩

end

/-! ## Writing -/

mutual

/-- The document of a condition writes it, if its values have documents of their own. -/
theorem writes_toJson (c : Condition) (h : ∀ x ∈ c.comparisons, x.value.IsDocumented) :
    Writes (c.toJson Value.document) c := by
  match c with
  | .compare column operator value =>
    have hvalue := h ⟨column, operator, value⟩ (by simp [comparisons, visits, Visit.comparison?])
    rw [toJson]
    exact .comparison (Value.ofJson?_document hvalue)
  | .group connective members =>
    rw [toJson]
    exact .group (writesEach_toJsonEach members fun c hc x hx =>
      h x (mem_comparisons_group.2 ⟨c, hc, hx⟩))

/-- The documents of conditions write them one by one. -/
theorem writesEach_toJsonEach (cs : List Condition)
    (h : ∀ c ∈ cs, ∀ x ∈ c.comparisons, x.value.IsDocumented) :
    WritesEach (toJsonEach Value.document cs) cs := by
  match cs with
  | [] =>
    rw [toJsonEach]
    exact .nil
  | c :: rest =>
    rw [toJsonEach]
    exact .cons (writes_toJson c (h c (.head _)))
      (writesEach_toJsonEach rest fun d hd => h d (.tail _ hd))

end

end Condition

namespace Filter

/-- A document that writes a condition has no member that would make it anything else. -/
theorem member?_of_writes {j : Json} {c : Condition} (h : Condition.Writes j c) :
    j.member? "conditions" = none := by
  cases h with
  | comparison scalar => rfl
  | @group connective items members each => cases connective <;> rfl

theorem ofJson_of_writes {j : Json} {c : Condition} (h : Condition.Writes j c) :
    ofJson j = .ok (.tree c) := by
  rw [ofJson, member?_of_writes h, Condition.ofJson_of_writes h]
  rfl

/-- The same document as the member `conditions` is read as the same filter. -/
theorem ofJson_member_of_writes {j : Json} {c : Condition} (h : Condition.Writes j c) :
    ofJson (.object [("conditions", j)]) = .ok (.tree c) := by
  have hmember : (Json.object [("conditions", j)]).member? "conditions" = some j := rfl
  have hread := Condition.ofJson_of_writes h
  rw [ofJson, hmember]
  cases h <;> simp [hread, Except.map]

end Filter

namespace Condition

/-- Whatever condition has values with documents of their own, its document is read as that
condition, and as the filter with it, both bare and as the member `conditions`. Every document is
read as a condition that it writes if it follows the grammar, and is refused if it does not. -/
theorem reader_accepts_what_writes_a_condition :
    (∀ c : Condition, (∀ x ∈ c.comparisons, x.value.IsDocumented) →
      ofJson (c.toJson Value.document) = .ok c ∧
        Filter.ofJson (c.toJson Value.document) = .ok (.tree c) ∧
        Filter.ofJson (.object [("conditions", c.toJson Value.document)]) = .ok (.tree c)) ∧
    (∀ j : Json,
      (IsCondition j ∧ ∃ c, ofJson j = .ok c ∧ Writes j c) ∨
        (¬ IsCondition j ∧ ∃ reason, ofJson j = .error (.badConditionShape reason))) := by
  constructor
  · intro c hvalues
    have hwrites := writes_toJson c hvalues
    exact ⟨ofJson_of_writes hwrites, Filter.ofJson_of_writes hwrites,
      Filter.ofJson_member_of_writes hwrites⟩
  · intro j
    rcases ofJson_spec j with ⟨c, hread, hwrites⟩ | hrefused
    · exact .inl ⟨hwrites.isCondition, c, hread, hwrites⟩
    · exact .inr hrefused

/-- A condition with a value of every kind that has a document, and with a group that is empty. -/
def everyKind : Condition :=
  .all [.eq "a" .null, .any [.ne "b" (.bool true), .any [], .lt "c" (.int (-5))],
    .gte "d" (.float 0.5), .like "e" (.text "x%")]

theorem every_kind_is_read_back :
    (∀ x ∈ everyKind.comparisons, x.value.IsDocumented) ∧
      ofJson (everyKind.toJson Value.document) = .ok everyKind ∧
      Filter.ofJson (everyKind.toJson Value.document) = .ok (.tree everyKind) ∧
      Filter.ofJson (.object [("conditions", everyKind.toJson Value.document)]) =
        .ok (.tree everyKind) := by
  have hvalues : ∀ x ∈ everyKind.comparisons, x.value.IsDocumented := by decide +kernel
  exact ⟨hvalues, reader_accepts_what_writes_a_condition.1 everyKind hvalues⟩

/-- A group has one member, and a comparison has three items. -/
example :
    ofJson (.object [("AND", .array []), ("OR", .array [])]) =
        .error (.badConditionShape "a group must have exactly one AND/OR key, found 2 keys") ∧
      ofJson (.array [.string "test", .string "=", .integer 2, .integer 4]) =
        .error (.badConditionShape "expected [column, operator, value], found 4 elements") := by
  constructor <;> rfl

end Condition

end BoundSql
