import BoundSql.Proofs.Condition.FilterDocuments
import BoundSql.Proofs.Content.Storage
import BoundSql.Proofs.Number.Nearest
import BoundSql.Proofs.Statement.NormalRow

/-!
# Integers of documents as values

A document keeps integers of 64 bits, with sign or without. Those of 64 bits with sign stay integers as
values. The larger ones, which no column of integers holds, become floating-point numbers, about 2048 of
them the same number.

Main statement: `integers_are_told_apart_within_int64`: which integers have one value, so that nothing
read from a document tells them apart.
-/

namespace BoundSql

namespace Value

/-- Scalars under names stand for names with values. -/
theorem exists_isMembers {members : List (String × Json)}
    (h : ∀ member ∈ members, member.2.IsScalar) :
    ∃ pairs, List.Forall₂ IsMember members pairs := by
  induction members with
  | nil => exact ⟨[], .nil⟩
  | cons member rest ih =>
    rw [List.forall_mem_cons] at h
    obtain ⟨value, hvalue⟩ := exists_of_isScalar h.1
    obtain ⟨pairs, hrest⟩ := ih h.2
    exact ⟨(member.1, value) :: pairs, .cons ⟨rfl, hvalue⟩ hrest⟩

/-- Members stand for pairs of the same names. -/
theorem names_of_isMembers {members : List (String × Json)} {pairs : List (String × Value)}
    (h : List.Forall₂ IsMember members pairs) : Pairs.names pairs = Pairs.names members := by
  induction h with
  | nil => rfl
  | cons hfirst _ ih => rw [Pairs.names_cons, Pairs.names_cons, ih, hfirst.1]

end Value

/-- An integer that a document keeps as one. -/
structure JsonInteger where
  val : Int
  lower : -0x8000000000000000 ≤ val
  upper : val < 0x10000000000000000
deriving DecidableEq

namespace JsonInteger

theorem ext {m n : JsonInteger} (h : m.val = n.val) : m = n := by
  cases m; cases n; cases h; rfl

/-- The document that is the integer. -/
def document (n : JsonInteger) : Json :=
  .integer n.val

/-- Whether the integer has 64 bits with sign. -/
def FitsInt64 (n : JsonInteger) : Prop :=
  n.val < 0x8000000000000000

instance (n : JsonInteger) : Decidable n.FitsInt64 :=
  inferInstanceAs (Decidable (_ < _))

/-- Two integers that have one value: they are one integer, or both are too large to stay integers
and nearest to the same multiple of 2048. -/
def Alike (m n : JsonInteger) : Prop :=
  m = n ∨ (¬ m.FitsInt64 ∧ ¬ n.FitsInt64 ∧
    Number.nearestFactor m.val.toNat = Number.nearestFactor n.val.toNat)

instance (m n : JsonInteger) : Decidable (m.Alike n) :=
  inferInstanceAs (Decidable (_ ∨ _))

/-- The value of the integer. -/
def value (n : JsonInteger) : Value :=
  match Value.int64? n.val with
  | some i => .int i
  | none => .float (Number.floatOfInt n.val)

/-- An integer of a document is read as its value. -/
theorem ofJson?_document (n : JsonInteger) : Value.ofJson? n.document = some n.value := by
  rw [document, Value.ofJson?, value]
  cases Value.int64? n.val <;> rfl

/-- An integer is never read as null. -/
theorem value_ne_null (n : JsonInteger) : n.value ≠ .null := by
  rw [value]
  cases Value.int64? n.val <;> exact Value.noConfusion

variable {m n : JsonInteger}

/-! ## One value -/

/-- An integer of 64 bits with sign stays itself. -/
theorem value_of_fits (h : n.FitsInt64) : ∃ i, n.value = .int i ∧ i.toInt = n.val := by
  have hint : Value.int64? n.val = some (Int64.ofInt n.val) := if_pos ⟨n.lower, h⟩
  exact ⟨_, by rw [value, hint], Value.int64?_eq_some_iff.1 hint⟩

/-- An integer that does not fit has its sixty-fourth bit set. -/
theorem bounds_of_not_fits (h : ¬ n.FitsInt64) :
    0x8000000000000000 ≤ n.val.toNat ∧ n.val.toNat < 0x10000000000000000 := by
  have hupper := n.upper
  unfold FitsInt64 at h
  omega

/-- An integer that does not fit becomes the nearest floating-point number. -/
theorem value_of_not_fits (h : ¬ n.FitsInt64) :
    n.value = .float (Number.floatOfInt (n.val.toNat : Int)) := by
  have hnone : Value.int64? n.val = none := Value.int64?_eq_none_iff.2 fun hrange => h hrange.2
  have hval : (n.val.toNat : Int) = n.val := by
    unfold FitsInt64 at h
    omega
  rw [value, hnone, hval]

/-- An integer that fits is like no other. -/
theorem alike_of_fits (h : m.FitsInt64 ∨ n.FitsInt64) : m.Alike n ↔ m = n := by
  constructor
  · rintro (heq | ⟨hm, hn, -⟩)
    · exact heq
    · exact absurd h (by simp [hm, hn])
  · exact .inl

/-- Integers that do not fit are alike exactly if they are nearest to the same multiple. -/
theorem alike_of_not_fits (hm : ¬ m.FitsInt64) (hn : ¬ n.FitsInt64) :
    m.Alike n ↔ Number.nearestFactor m.val.toNat = Number.nearestFactor n.val.toNat := by
  constructor
  · rintro (rfl | ⟨-, -, heq⟩)
    · rfl
    · exact heq
  · intro heq
    exact .inr ⟨hm, hn, heq⟩

/-- A comparison of values finds exactly the alike integers equal if it tells integers apart, takes no
integer for a floating-point number and finds two nearest numbers equal exactly if the nearest multiples
are. -/
theorem compare_value_iff (Same : Value → Value → Prop)
    (hint : ∀ i j, Same (.int i) (.int j) ↔ i = j)
    (hmixed : ∀ i x, ¬ Same (.int i) (.float x) ∧ ¬ Same (.float x) (.int i))
    (hfloat : ∀ a b : Nat, 0x8000000000000000 ≤ a → a < 0x10000000000000000 →
      0x8000000000000000 ≤ b → b < 0x10000000000000000 →
      (Same (.float (Number.floatOfInt a)) (.float (Number.floatOfInt b)) ↔
        Number.nearestFactor a = Number.nearestFactor b)) :
    Same m.value n.value ↔ m.Alike n := by
  -- Only if both are too large, the comparison is one of floating-point numbers.
  by_cases hm : m.FitsInt64
  · obtain ⟨i, hvalue, hi⟩ := value_of_fits hm
    rw [alike_of_fits (.inl hm), hvalue]
    by_cases hn : n.FitsInt64
    · obtain ⟨j, hvalue', hj⟩ := value_of_fits hn
      rw [hvalue', hint, ← Int64.toInt_inj, hi, hj]
      exact ⟨ext, congrArg val⟩
    · rw [value_of_not_fits hn]
      -- one integer and one floating-point number are never the same, and never alike
      exact iff_of_false (hmixed i _).1 fun heq => hn (heq ▸ hm)
  · rw [value_of_not_fits hm]
    by_cases hn : n.FitsInt64
    · obtain ⟨j, hvalue', -⟩ := value_of_fits hn
      rw [alike_of_fits (.inr hn), hvalue']
      exact iff_of_false (hmixed j _).2 fun heq => hm (heq ▸ hn)
    · obtain ⟨hlowM, hhighM⟩ := bounds_of_not_fits hm
      obtain ⟨hlowN, hhighN⟩ := bounds_of_not_fits hn
      rw [alike_of_not_fits hm hn, value_of_not_fits hn, hfloat _ _ hlowM hhighM hlowN hhighN]

/-- Integers have one value exactly if they are alike. -/
theorem value_eq_iff : m.value = n.value ↔ m.Alike n := by
  refine compare_value_iff (· = ·) (by simp) (by simp) ?_
  intro a b hlowA hhighA hlowB hhighB
  rw [Value.float.injEq, Number.floatOfInt_eq_iff hlowA hhighA hlowB hhighB]

/-- Integers have values that compare as equal exactly if they are alike. -/
theorem same_value_iff : m.value.same n.value = true ↔ m.Alike n := by
  refine compare_value_iff (fun v w => v.same w = true) (by simp [Value.same])
    (by simp [Value.same]) ?_
  intro a b hlowA hhighA hlowB hhighB
  rw [Value.same, Number.floatOfInt_beq_iff hlowA hhighA hlowB hhighB]

/-- An integer is like no other exactly if it stays an integer. -/
theorem fitsInt64_iff : n.FitsInt64 ↔ ∀ m : JsonInteger, m.Alike n → m = n := by
  constructor
  · intro h m halike
    exact (alike_of_fits (.inr h)).1 halike
  · intro halone
    by_contra h
    obtain ⟨hlow, hhigh⟩ := bounds_of_not_fits h
    obtain ⟨k, hne, hlowK, hhighK, hsame⟩ := Number.exists_ne_nearestFactor_eq hlow hhigh
    -- The neighbour with the same nearest multiple is too large as well.
    let m : JsonInteger := ⟨k, by omega, by omega⟩
    have hm : ¬ m.FitsInt64 := by
      show ¬ (k : Int) < 0x8000000000000000
      omega
    have heq : m = n := halone m ((alike_of_not_fits hm h).2 (by rw [← hsame]; rfl))
    apply hne
    rw [← heq]
    rfl

/-- A field of an integer type takes the integer as the same value, or refuses it where a document
does not keep it apart. -/
theorem encode?_eq {t : IntType} {x : BoundedInt t} (h : x.val = n.val) :
    FieldType.encode? (.int t) x = if n.FitsInt64 then some n.value else none := by
  split
  · rename_i hfits
    obtain ⟨i, hvalue, hi⟩ := value_of_fits hfits
    exact FieldType.encode?_int.2 ⟨i, hvalue, hi.trans h.symm⟩
  · rename_i hlarge
    rw [FieldType.encode?_int_eq_none_iff, h]
    unfold FitsInt64 at hlarge
    omega

/-! ## Readers -/

/-- Among scalars the integer is read as its value, and the pairs behind it have the names of the
members behind it. -/
theorem exists_isMembers_around {before after : List (String × Json)} (n : JsonInteger)
    (name : String) (h : ∀ member ∈ before ++ after, member.2.IsScalar) :
    ∃ front back,
      List.Forall₂ Value.IsMember (before ++ (name, n.document) :: after)
        (front ++ (name, n.value) :: back) ∧
      Pairs.names back = Pairs.names after := by
  rw [List.forall_mem_append] at h
  obtain ⟨front, hbefore⟩ := Value.exists_isMembers h.1
  obtain ⟨back, hafter⟩ := Value.exists_isMembers h.2
  exact ⟨front, back, List.rel_append hbefore (.cons ⟨rfl, n.ofJson?_document⟩ hafter),
    Value.names_of_isMembers hafter⟩

/-- A comparison with an integer binds its value. -/
theorem comparison_binds (n : JsonInteger) (column operator : String) :
    Condition.ofJson (.array [.string column, .string operator, n.document]) =
      .ok (.compare column operator n.value) :=
  Condition.ofJson_of_writes (.comparison n.ofJson?_document)

/-- Beside SQL the integer is bound to its name, unless a later one means the same binding. -/
theorem values_bind (n : JsonInteger) (sql name : String) {before after : List (String × Json)}
    (hscalars : ∀ member ∈ before ++ after, member.2.IsScalar)
    (hlast : ∀ later ∈ Pairs.names after, bareName later ≠ bareName name) :
    ∃ p, Filter.ofJson (.object [("conditions", .string sql),
        ("values", .object (before ++ (name, n.document) :: after))]) = .ok (.raw sql p) ∧
      p.get? name = some n.value := by
  obtain ⟨front, back, hmembers, hnames⟩ := exists_isMembers_around n name hscalars
  refine ⟨.ofList (front ++ (name, n.value) :: back),
    (Filter.Writes.sqlThenValues sql (.members hmembers)).ofJson_eq, ?_⟩
  -- of several pairs that mean the binding the last one counts, and that is the integer
  rw [(Params.bindsLast_ofList _).values]
  refine ⟨front, name, back, rfl, rfl, ?_⟩
  intro later hlater
  exact hlast _ (hnames ▸ List.mem_map_of_mem hlater)

/-- In a row the integer is written to its column, unless a later one is called the same. -/
theorem row_binds (n : JsonInteger) (c : Clause) (column : String)
    {before after : List (String × Json)}
    (hscalars : ∀ member ∈ before ++ after, member.2.IsScalar)
    (hnamed : ∀ name ∈ Pairs.names (before ++ (column, n.document) :: after),
      Text.isBlank name = false)
    (hlast : column ∉ Pairs.names after) :
    ∃ row, (RowData.json (.object (before ++ (column, n.document) :: after))).bindable c =
        .ok row ∧
      (column, n.value) ∈ row := by
  obtain ⟨front, back, hmembers, hnames⟩ := exists_isMembers_around n column hscalars
  have hvalue : (column, n.value) ∈ front ++ (column, n.value) :: back := by simp
  refine ⟨_, RowData.bindable_eq_ok_iff.2 ⟨_, .object hmembers, ?_, ?_, rfl⟩, ?_⟩
  · rwa [Value.names_of_isMembers hmembers]
  · exact ⟨_, hvalue, n.value_ne_null⟩
  · -- of several pairs of a column the last one counts
    rw [(RowData.normalForm_putAll _).values]
    refine ⟨front, back, rfl, n.value_ne_null, ?_⟩
    intro later hlater hcolumn
    exact absurd (hnames ▸ hcolumn ▸ List.mem_map_of_mem hlater) hlast

/-- An integer of a document has a value. Two of them have one value, or values that compare as equal,
exactly if they are alike, and an integer is like no other exactly if it has 64 bits with sign; a field
of an integer type refuses the others. Comparisons, bindings beside SQL and rows bind this value. -/
theorem integers_are_told_apart_within_int64 (n : JsonInteger) :
    Value.ofJson? n.document = some n.value ∧
    (∀ m : JsonInteger,
      (m.value = n.value ↔ m.Alike n) ∧ (m.value.same n.value = true ↔ m.Alike n)) ∧
    (n.FitsInt64 ↔ ∀ m : JsonInteger, m.Alike n → m = n) ∧
    (∀ t (x : BoundedInt t), x.val = n.val →
      FieldType.encode? (.int t) x = if n.FitsInt64 then some n.value else none) ∧
    (∀ column operator,
      Condition.ofJson (.array [.string column, .string operator, n.document]) =
        .ok (.compare column operator n.value)) ∧
    (∀ sql name before after, (∀ member ∈ before ++ after, member.2.IsScalar) →
      (∀ later ∈ Pairs.names after, bareName later ≠ bareName name) →
      ∃ p, Filter.ofJson (.object [("conditions", .string sql),
          ("values", .object (before ++ (name, n.document) :: after))]) = .ok (.raw sql p) ∧
        p.get? name = some n.value) ∧
    (∀ c column before after, (∀ member ∈ before ++ after, member.2.IsScalar) →
      (∀ name ∈ Pairs.names (before ++ (column, n.document) :: after),
        Text.isBlank name = false) →
      column ∉ Pairs.names after →
      ∃ row, (RowData.json (.object (before ++ (column, n.document) :: after))).bindable c =
          .ok row ∧
        (column, n.value) ∈ row) := by
  refine ⟨n.ofJson?_document, fun m => ⟨value_eq_iff, same_value_iff⟩, fitsInt64_iff,
    fun t x => encode?_eq, n.comparison_binds, ?_, ?_⟩
  · intro sql name before after hscalars hlast
    exact n.values_bind sql name hscalars hlast
  · intro c column before after hscalars hnamed hlast
    exact n.row_binds c column hscalars hnamed hlast

/-- The greatest integer with 64 bits and a sign. -/
def greatest : JsonInteger := ⟨0x7fffffffffffffff, by decide, by decide⟩

/-- The least integer that is too large. -/
def tooLarge : JsonInteger := ⟨0x8000000000000000, by decide, by decide⟩

/-- The integer after the least that is too large. -/
def afterTooLarge : JsonInteger := ⟨0x8000000000000001, by decide, by decide⟩

/-- The first two integers that are too large have one value, and the one before has another, which a
field, a binding and a row take. -/
theorem greatest_integer_has_its_own_value :
    greatest.value ≠ tooLarge.value ∧ tooLarge.value = afterTooLarge.value ∧
      FieldType.encode? (.int .u64) FieldType.greatest = some greatest.value ∧
      (∃ p, Filter.ofJson (.object [("conditions", .string "a = :a"),
          ("values", .object [("b", .null), ("a", greatest.document)])]) = .ok (.raw "a = :a" p) ∧
        p.get? "a" = some greatest.value) ∧
      ∃ row,
        (RowData.json (.object [("a", greatest.document)])).bindable .updateSet = .ok row ∧
          ("a", greatest.value) ∈ row := by
  obtain ⟨-, hgreatest, -, hfield, -, hvalues, hrow⟩ :=
    integers_are_told_apart_within_int64 greatest
  obtain ⟨-, hafter, -⟩ := integers_are_told_apart_within_int64 afterTooLarge
  refine ⟨?_, (hafter tooLarge).1.2 (by decide), ?_, ?_, ?_⟩
  · rw [ne_comm, Ne, (hgreatest tooLarge).1.not]
    decide
  · rw [hfield .u64 FieldType.greatest rfl, if_pos (by decide)]
  · exact hvalues "a = :a" "a" [("b", .null)] [] (by simp [Json.IsScalar]) (by simp)
  · exact hrow .updateSet "a" [] [] (by simp) (by decide) (by simp)

/-- Integers do not always keep their identity. -/
theorem neighbours_become_one_value :
    ¬ ∀ m n : JsonInteger, m ≠ n →
      Value.ofJson? m.document ≠ Value.ofJson? n.document := by
  intro hapart
  have halike : tooLarge.Alike afterTooLarge := by decide
  apply hapart tooLarge afterTooLarge (by decide)
  rw [ofJson?_document, ofJson?_document, value_eq_iff.2 halike]

end JsonInteger

end BoundSql
