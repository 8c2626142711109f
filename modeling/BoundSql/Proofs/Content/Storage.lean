import Mathlib.Data.String.Basic
import BoundSql.Engine.Cell
import BoundSql.Schema

/-!
# Contents that are stored

The content of a field is encoded as a value, the value is stored as a cell, and what is read from
the cell is decoded. On the way an integer stays itself or is refused, a truth value becomes an
integer, a UUID is written in hexadecimal digits with hyphens, and an absent content is null.

Main statement: `contents_survive_storage`. It rests on `keeps_of_encode?`, one case for each type,
and on `Uuid.parse_text` for the one parser among them.
-/

namespace BoundSql

/-! ## Hexadecimal digits -/

namespace Number

/-- A hexadecimal digit is read as what it writes. -/
theorem hexDigit?_digitChar {d : Nat} (h : d < 16) : hexDigit? (Nat.digitChar d) = some d := by
  have all : ∀ d : Fin 16, hexDigit? (Nat.digitChar d) = some d.val := by decide
  exact all ⟨d, h⟩

theorem utf8Size_digitChar {d : Nat} (h : d < 16) : (Nat.digitChar d).utf8Size = 1 := by
  have all : ∀ d : Fin 16, (Nat.digitChar d).utf8Size = 1 := by decide
  exact all ⟨d, h⟩

theorem hexText_cons (b : UInt8) (bytes : List UInt8) :
    hexText (b :: bytes) =
      Nat.digitChar (b.toNat / 16) :: Nat.digitChar (b.toNat % 16) :: hexText bytes := rfl

/-- The digits of bytes are written byte by byte. -/
theorem hexText_append (front back : List UInt8) :
    hexText (front ++ back) = hexText front ++ hexText back := by
  simp [hexText]

/-- A byte has two digits. -/
theorem length_hexText (bytes : List UInt8) : (hexText bytes).length = 2 * bytes.length := by
  induction bytes with
  | nil => rfl
  | cons b rest ih =>
    simp only [hexText_cons, List.length_cons, ih]
    omega

/-- The digits of bytes take one byte each. -/
theorem utf8Len_hexText (bytes : List UInt8) :
    String.utf8Len (hexText bytes) = 2 * bytes.length := by
  induction bytes with
  | nil => rfl
  | cons b rest ih =>
    have hbyte : b.toNat < 256 := b.toNat_lt
    have hhigh := utf8Size_digitChar (show b.toNat / 16 < 16 by omega)
    have hlow := utf8Size_digitChar (show b.toNat % 16 < 16 by omega)
    simp only [hexText_cons, String.utf8Len_cons, hhigh, hlow, ih, List.length_cons]
    omega

/-- Bytes are read back from their digits, the upper half of each first. -/
theorem hexBytes?_hexText (bytes : List UInt8) : hexBytes? (hexText bytes) = some bytes := by
  induction bytes with
  | nil => rfl
  | cons b rest ih =>
    have hbyte : b.toNat < 256 := b.toNat_lt
    have hhigh := hexDigit?_digitChar (show b.toNat / 16 < 16 by omega)
    have hlow := hexDigit?_digitChar (show b.toNat % 16 < 16 by omega)
    have hwhole : 16 * (b.toNat / 16) + b.toNat % 16 = b.toNat := by omega
    rw [hexText_cons, hexBytes?, hhigh, hlow, ih]
    simp only [hwhole, UInt8.ofNat_toNat]

end Number

/-! ## UUIDs -/

namespace Uuid

open Number

/-- The digits of `count` bytes from the one at `first` on. -/
def digits (u : Uuid) (first count : Nat) : List Char :=
  hexText ((u.bytes.drop first).take count)

/-- A UUID is written in five groups with hyphens between them. -/
theorem toList_text (u : Uuid) :
    u.text.toList = u.digits 0 4 ++ '-' :: (u.digits 4 2 ++ '-' :: (u.digits 6 2 ++ '-' ::
      (u.digits 8 2 ++ '-' :: u.digits 10 6))) := by
  simp [text, digits]

theorem length_take_drop (u : Uuid) {first count : Nat} (h : first + count ≤ 16) :
    ((u.bytes.drop first).take count).length = count := by
  rw [List.length_take, List.length_drop, u.length_eq]
  omega

/-- A group has two digits for each of its bytes. -/
theorem length_digits (u : Uuid) {first count : Nat} (h : first + count ≤ 16) :
    (u.digits first count).length = 2 * count := by
  rw [digits, length_hexText, u.length_take_drop h]

theorem utf8Len_digits (u : Uuid) {first count : Nat} (h : first + count ≤ 16) :
    String.utf8Len (u.digits first count) = 2 * count := by
  rw [digits, utf8Len_hexText, u.length_take_drop h]

/-- Neighbouring groups are the digits of neighbouring bytes. -/
theorem digits_append (u : Uuid) (first count more : Nat) :
    u.digits first count ++ u.digits (first + count) more = u.digits first (count + more) := by
  rw [digits, digits, digits, ← hexText_append, List.take_add, List.drop_drop]

/-- All digits together are those of all bytes. -/
theorem digits_all (u : Uuid) : u.digits 0 16 = hexText u.bytes := by
  rw [digits, List.drop_zero, List.take_of_length_le (Nat.le_of_eq u.length_eq)]

/-- A UUID is written in 36 bytes. -/
theorem utf8ByteSize_text (u : Uuid) : u.text.utf8ByteSize = 36 := by
  have hhyphen : Char.utf8Size '-' = 1 := by decide
  rw [← String.utf8Len_toList, toList_text]
  simp [utf8Len_digits, hhyphen]

/-- A group that has its length is cut off before the hyphen. -/
theorem groupDigits?_cons {group : List Char} {n : Nat} (h : group.length = n) (m : Nat)
    (lengths : List Nat) (rest : List Char) :
    groupDigits? (n :: m :: lengths) (group ++ '-' :: rest) =
      (groupDigits? (m :: lengths) rest).map (group ++ ·) := by
  subst h
  simp [groupDigits?]

/-- Without its hyphens the text of a UUID is the digits of its bytes. -/
theorem groupDigits?_text (u : Uuid) :
    groupDigits? groupLengths u.text.toList = some (hexText u.bytes) := by
  have h0 : (u.digits 0 4).length = 8 := u.length_digits (by decide)
  have h1 : (u.digits 4 2).length = 4 := u.length_digits (by decide)
  have h2 : (u.digits 6 2).length = 4 := u.length_digits (by decide)
  have h3 : (u.digits 8 2).length = 4 := u.length_digits (by decide)
  have h4 : (u.digits 10 6).length = 12 := u.length_digits (by decide)
  have hlast : groupDigits? [12] (u.digits 10 6) = some (u.digits 10 6) := if_pos h4
  rw [toList_text, groupLengths, groupDigits?_cons h0, groupDigits?_cons h1, groupDigits?_cons h2,
    groupDigits?_cons h3, hlast]
  simp only [Option.map_some]
  -- Without the hyphens the groups fit together again, from the last one on.
  rw [u.digits_append 8 2 6, u.digits_append 6 2 8, u.digits_append 4 2 10, u.digits_append 0 4 12,
    digits_all]

/-- A UUID is read back from its text. -/
theorem parse_text (u : Uuid) : parse u.text = .ok u := by
  have hread : read? u.text.utf8ByteSize u.text.toList = some u.bytes := by
    -- Of all forms only the one without a wrapping has 36 bytes.
    rw [utf8ByteSize_text, read?, hyphenated?, if_pos rfl]
    simp only [groupDigits?_text, Option.bind_some, hexBytes?_hexText]
  rw [parse, hread]
  exact dif_pos u.length_eq

end Uuid

/-! ## Contents -/

namespace FieldType

/-- The types of integers, truth values, text, bytes and UUIDs. -/
inductive IsPlain : FieldType → Prop where
  | int (t : IntType) : IsPlain (.int t)
  | bool : IsPlain .bool
  | text : IsPlain .text
  | bytes : IsPlain .bytes
  | uuid : IsPlain .uuid

/-- The plain types and the options of them. -/
inductive IsExact : FieldType → Prop where
  | plain {t : FieldType} (plain : t.IsPlain) : IsExact t
  | option {t : FieldType} (plain : t.IsPlain) : IsExact (.option t)

/-- A value gives a content back, as it is and as it comes from a cell. -/
structure Keeps (t : FieldType) (v : Value) (x : t.Carrier) : Prop where
  direct : decode t v = .ok x
  stored : decode t (Engine.Cell.ofValue v).value = .ok x

/-- A value that comes from a cell as it is gives back what it decodes to. -/
theorem Keeps.of_direct {t : FieldType} {v : Value} {x : t.Carrier}
    (hcell : (Engine.Cell.ofValue v).value = v) (h : decode t v = .ok x) : t.Keeps v x :=
  ⟨h, by rw [hcell, h]⟩

/-- What is not null is read in an option as it is read without. -/
theorem decode_option {t : FieldType} {v : Value} (h : v ≠ .null) :
    decode (.option t) v = (decode t v).map some := by
  -- null is the one value that an option reads in its own way
  cases v with
  | null => exact absurd rfl h
  | _ => rfl

/-- What is kept by a value that stays a value is kept in an option. -/
theorem Keeps.option {t : FieldType} {v : Value} {x : t.Carrier} (h : t.Keeps v x)
    (hvalue : v ≠ .null) (hcell : (Engine.Cell.ofValue v).value ≠ .null) :
    (FieldType.option t).Keeps v (some x) where
  direct := by
    rw [decode_option hvalue, h.direct]
    rfl
  stored := by
    rw [decode_option hcell, h.stored]
    rfl

/-- The value of an integer is the integer of 64 bits that equals it. -/
theorem encode?_int {t : IntType} {n : BoundedInt t} {v : Value} :
    encode? (.int t) n = some v ↔ ∃ i : Int64, v = .int i ∧ i.toInt = n.val := by
  simp only [encode?, Option.map_eq_some_iff, Value.int64?_eq_some_iff]
  constructor
  · rintro ⟨i, hi, rfl⟩
    exact ⟨i, rfl, hi⟩
  · rintro ⟨i, rfl, hi⟩
    exact ⟨i, hi, rfl⟩

/-- An integer has no value exactly if it lies above the integers of 64 bits with sign. -/
theorem encode?_int_eq_none_iff {t : IntType} {n : BoundedInt t} :
    encode? (.int t) n = none ↔ 0x7fffffffffffffff < n.val := by
  -- no integer type goes below the least integer of 64 bits
  have lower : -0x8000000000000000 ≤ n.val := Int.le_trans t.le_min n.lower
  simp only [encode?, Option.map_eq_none_iff, Value.int64?_eq_none_iff]
  omega

/-- An integer type reads an integer as the one that equals it. -/
theorem readInt_eq_ok_iff {t : IntType} {i : Int64} {n : BoundedInt t} :
    readInt t (.int i) = .ok n ↔ n.val = i.toInt := by
  rw [← BoundedInt.of?_eq_some_iff, readInt]
  cases BoundedInt.of? t i.toInt <;> simp

/-- An integer is read as itself, or it is out of range and refused. -/
theorem readInt_spec (t : IntType) (i : Int64) :
    (∃ n, readInt t (.int i) = .ok n ∧ t.min ≤ i.toInt ∧ i.toInt ≤ t.max) ∨
      (readInt t (.int i) = .error (.range i t) ∧ ¬ (t.min ≤ i.toInt ∧ i.toInt ≤ t.max)) := by
  cases hof : BoundedInt.of? t i.toInt with
  | some n =>
    have hval := BoundedInt.of?_eq_some_iff.1 hof
    exact .inl ⟨n, readInt_eq_ok_iff.2 hval, hval ▸ n.lower, hval ▸ n.upper⟩
  | none =>
    refine .inr ⟨?_, BoundedInt.of?_eq_none_iff.1 hof⟩
    simp only [readInt, hof]

/-- A UUID is read from the text that writes it. -/
theorem readUuid_text (u : Uuid) : readUuid (.text u.text) = .ok u := by
  rw [readUuid, Uuid.parse_text]
  rfl

/-- The content of a plain type is kept by its value, and neither that nor what comes from the cell
is null. -/
theorem keeps_of_encode? {t : FieldType} (h : t.IsPlain) {x : t.Carrier} {v : Value}
    (hvalue : encode? t x = some v) :
    t.Keeps v x ∧ v ≠ .null ∧ (Engine.Cell.ofValue v).value ≠ .null := by
  cases h with
  | int t =>
    obtain ⟨i, rfl, hi⟩ := encode?_int.1 hvalue
    have hread : readInt t (.int i) = .ok x := readInt_eq_ok_iff.2 hi.symm
    exact ⟨.of_direct rfl hread, by simp, by simp [Engine.Cell.value_ofValue]⟩
  | bool =>
    cases hvalue
    refine ⟨⟨rfl, ?_⟩, by simp, by simp [Engine.Cell.value_ofValue]⟩
    -- Zero is the only integer that is read as false.
    cases x <;> rfl
  | text =>
    cases hvalue
    -- A cell has the bytes of a text, which are valid and so are read as that text.
    have hcell := Engine.Cell.value_ofValue (.text x)
    exact ⟨.of_direct hcell rfl, by simp, by simp [hcell]⟩
  | bytes =>
    cases hvalue
    exact ⟨.of_direct rfl rfl, by simp, by simp [Engine.Cell.value_ofValue]⟩
  | uuid =>
    cases hvalue
    have hcell := Engine.Cell.value_ofValue (.text (Uuid.text x))
    exact ⟨.of_direct hcell (readUuid_text x), by simp, by simp [hcell]⟩

/-- What a value keeps of a plain type it keeps of the option too, and null keeps what is absent. -/
theorem keeps_of_isExact {t : FieldType} (h : t.IsExact) {x : t.Carrier} {v : Value}
    (hvalue : encode? t x = some v) : t.Keeps v x := by
  cases h with
  | plain plain => exact (keeps_of_encode? plain hvalue).1
  | option plain =>
    -- Null is read as absent, so that a content has to have another value.
    cases x with
    | none =>
      cases hvalue
      exact ⟨rfl, rfl⟩
    | some x =>
      obtain ⟨hkeeps, hdirect, hcell⟩ := keeps_of_encode? plain hvalue
      exact hkeeps.option hdirect hcell

/-- Whatever is stored of an integer, a truth value, text, bytes or a UUID, or of an option of one
of these, is read back as it was, from the value and from the cell, where truth values are the
integers zero and one. Everything but an integer of 64 bits without sign has a value. An integer has
one exactly if it does not exceed the signed 64-bit integers, and is then that integer; an integer is
read as an integer type exactly if it is in range, and then as itself. -/
theorem contents_survive_storage :
    (∀ t : FieldType, t.IsExact → ∀ x v, encode? t x = some v → t.Keeps v x) ∧
    (∀ b, (Engine.Cell.ofValue (.bool b)).value = .int (if b then 1 else 0)) ∧
    (∀ t : FieldType, t.storable = true → ∀ x, ∃ v, encode? t x = some v) ∧
    (∀ (t : IntType) (n : BoundedInt t),
      (encode? (.int t) n = none ↔ 0x7fffffffffffffff < n.val) ∧
      ∀ v, encode? (.int t) n = some v ↔ ∃ i : Int64, v = .int i ∧ i.toInt = n.val) ∧
    (∀ (t : IntType) (i : Int64),
      ((∃ n, decode (.int t) (.int i) = .ok n) ↔ t.min ≤ i.toInt ∧ i.toInt ≤ t.max) ∧
      (∀ n : BoundedInt t, decode (.int t) (.int i) = .ok n ↔ n.val = i.toInt) ∧
      ∀ e, decode (.int t) (.int i) = .error e → e = .range i t) := by
  refine ⟨fun t h x v hvalue => keeps_of_isExact h hvalue, fun b => rfl, ?_, ?_, ?_⟩
  · intro t h x
    exact Option.isSome_iff_exists.1 (encode?_isSome h x)
  · intro t n
    exact ⟨encode?_int_eq_none_iff, fun v => encode?_int⟩
  · intro t i
    refine ⟨?_, fun n => readInt_eq_ok_iff, ?_⟩
    · rcases readInt_spec t i with ⟨n, hread, hrange⟩ | ⟨hread, hrange⟩
      · exact ⟨fun _ => hrange, fun _ => ⟨n, hread⟩⟩
      · refine ⟨?_, fun h => absurd h hrange⟩
        rintro ⟨n, hn⟩
        cases hread.symm.trans hn
    · intro e he
      rcases readInt_spec t i with ⟨n, hread, -⟩ | ⟨hread, -⟩
      · cases hread.symm.trans he
      · cases hread.symm.trans he
        rfl

/-- The greatest integer without sign that has a value, and the next one. -/
def greatest : BoundedInt .u64 := ⟨0x7fffffffffffffff, by decide, by decide⟩

def tooGreat : BoundedInt .usize := ⟨0x8000000000000000, by decide, by decide⟩

/-- A UUID with digits of every kind. -/
def someUuid : Uuid :=
  ⟨[0x01, 0x23, 0x45, 0x67, 0x89, 0xab, 0xcd, 0xef, 0xfe, 0xdc, 0xba, 0x98, 0x76, 0x54, 0x32, 0x10],
    by decide⟩

theorem boundaries_survive_storage :
    (FieldType.option (.int .u64)).Keeps (.int Int64.maxValue) (some greatest) ∧
      FieldType.uuid.Keeps (.text "01234567-89ab-cdef-fedc-ba9876543210") someUuid ∧
      (FieldType.option .bool).Keeps .null none ∧
      FieldType.bool.Keeps (.bool true) true ∧
      encode? (.int .usize) tooGreat = none ∧
      decode (.int .i8) (.int (-129)) = .error (.range (-129) .i8) := by
  obtain ⟨hkeeps, -, -, hencode, hdecode⟩ := contents_survive_storage
  refine ⟨?_, ?_, ?_, ?_, ?_, ?_⟩
  · exact hkeeps _ (.option (.int .u64)) (some greatest) _ (by rfl)
  · exact hkeeps _ (.plain .uuid) someUuid _ (by rfl)
  · exact hkeeps _ (.option .bool) none _ rfl
  · exact hkeeps _ (.plain .bool) true _ rfl
  · exact (hencode .usize tooGreat).1.2 (by decide)
  · obtain ⟨hrange, -, hrefused⟩ := hdecode .i8 (-129)
    cases hread : decode (.int .i8) (.int (-129)) with
    | ok n => exact absurd (hrange.1 ⟨n, hread⟩) (by decide)
    | error e => rw [hrefused e hread]

end FieldType

end BoundSql
