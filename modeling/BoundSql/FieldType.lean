import BoundSql.Calendar.Reader
import BoundSql.Calendar.Writer
import BoundSql.Text.Utf8
import BoundSql.Uuid
import BoundSql.Value

/-!
# Types of fields

The types that convert to values and back. Every type is stored in one of the few kinds of
values; reading checks the kind and the range, so that no conversion wraps or cuts off.
-/

namespace BoundSql

/-! ## Integers -/

/-- The integer types. -/
inductive IntType where
  | i8
  | i16
  | i32
  | i64
  | u8
  | u16
  | u32
  | u64
  | usize
deriving DecidableEq, Repr

namespace IntType

/-- The name of a type in messages. -/
def name : IntType → String
  | i8 => "i8"
  | i16 => "i16"
  | i32 => "i32"
  | i64 => "i64"
  | u8 => "u8"
  | u16 => "u16"
  | u32 => "u32"
  | u64 => "u64"
  | usize => "usize"

/-- The least number of a type. -/
def min : IntType → Int
  | i8 => -0x80
  | i16 => -0x8000
  | i32 => -0x80000000
  | i64 => -0x8000000000000000
  | u8 | u16 | u32 | u64 | usize => 0

/-- The greatest number of a type. -/
def max : IntType → Int
  | i8 => 0x7f
  | i16 => 0x7fff
  | i32 => 0x7fffffff
  | i64 => 0x7fffffffffffffff
  | u8 => 0xff
  | u16 => 0xffff
  | u32 => 0xffffffff
  | u64 | usize => 0xffffffffffffffff

/-- Whether every number of a type is a signed 64-bit integer. -/
def fitsInt64 : IntType → Bool
  | u64 | usize => false
  | _ => true

/-- The numbers of a type that fits are signed 64-bit integers. -/
theorem int64_of_fitsInt64 {t : IntType} (h : t.fitsInt64 = true) {n : Int} (lower : t.min ≤ n)
    (upper : n ≤ t.max) : -0x8000000000000000 ≤ n ∧ n < 0x8000000000000000 := by
  cases t <;> simp only [fitsInt64, min, max, Bool.false_eq_true] at h lower upper <;> omega

/-- No integer type has numbers below the signed 64-bit integers. -/
theorem le_min (t : IntType) : -0x8000000000000000 ≤ t.min := by
  cases t <;> decide

end IntType

/-- A number of an integer type. -/
structure BoundedInt (t : IntType) where
  val : Int
  lower : t.min ≤ val
  upper : val ≤ t.max
deriving DecidableEq

/-- The number of a type, if it is in range. -/
def BoundedInt.of? (t : IntType) (n : Int) : Option (BoundedInt t) :=
  if h : t.min ≤ n ∧ n ≤ t.max then some ⟨n, h.1, h.2⟩ else none

theorem BoundedInt.of?_eq_some_iff {t : IntType} {n : Int} {m : BoundedInt t} :
    of? t n = some m ↔ m.val = n := by
  unfold of?
  constructor
  · intro h
    split at h
    · cases h
      rfl
    · cases h
  · rintro rfl
    rw [dif_pos ⟨m.lower, m.upper⟩]

theorem BoundedInt.of?_eq_none_iff {t : IntType} {n : Int} :
    of? t n = none ↔ ¬ (t.min ≤ n ∧ n ≤ t.max) := by
  unfold of?
  split <;> simp_all

/-- Zero belongs to every integer type. -/
def BoundedInt.zero (t : IntType) : BoundedInt t :=
  ⟨0, by cases t <;> decide, by cases t <;> decide⟩

/-! ## Types -/

/-- The types that convert to and from values. -/
inductive FieldType where
  | int (t : IntType)
  | bool
  /-- Floating-point numbers of single precision. -/
  | single
  | double
  | text
  | bytes
  | date
  | dateTime
  /-- Dates with a time in UTC. -/
  | timestamp
  | uuid
  /-- Values as they are. -/
  | value
  /-- A type with an absent value besides its own, stored as null. -/
  | option (t : FieldType)
deriving DecidableEq, Repr

namespace FieldType

/-- What a field of a type holds. -/
def Carrier : FieldType → Type
  | int t => BoundedInt t
  | bool => Bool
  | single => Float32
  | double => Float
  | text => String
  | bytes => List UInt8
  | date => Date
  | dateTime => DateTime
  | timestamp => DateTime
  | uuid => Uuid
  | value => Value
  | option t => Option t.Carrier

/-- Whether every content of a field has a value. Integers beyond 63 bits do not. -/
def storable : FieldType → Bool
  | int t => t.fitsInt64
  | option t => t.storable
  | _ => true

/-- The content of a field that is left out. -/
def default : (t : FieldType) → t.Carrier
  | int t => BoundedInt.zero t
  | bool => false
  | single => (0 : Float32)
  | double => (0 : Float)
  | text => ""
  | bytes => []
  | date => Date.epoch
  | dateTime => DateTime.epoch
  | timestamp => DateTime.epoch
  | uuid => ⟨List.replicate 16 0, by decide⟩
  | value => Value.null
  | option _ => none

/-! ## Writing -/

/-- The value of a field's content. An integer beyond 63 bits has none. -/
def encode? : (t : FieldType) → t.Carrier → Option Value
  | int _, n => (Value.int64? (BoundedInt.val n)).map .int
  | bool, b => some (.bool b)
  | single, x => some (.float (Float32.toFloat x))
  | double, x => some (.float x)
  | text, s => some (.text s)
  | bytes, bs => some (.blob bs)
  | date, d => some (.text (Date.text d))
  | dateTime, t => some (.text (DateTime.text t))
  | timestamp, t => some (.text (DateTime.utcText t))
  | uuid, u => some (.text (Uuid.text u))
  | value, v => some v
  | option _, none => some .null
  | option t, some x => encode? t x

/-! ## Reading -/

/-- Why a value is no content of a field. -/
inductive Mismatch where
  /-- The value is of the wrong kind. -/
  | kind (expected : String) (found : Value)
  | range (n : Int64) (t : IntType)
  | calendar (fault : ReadFault)
  | uuid (fault : UuidFault)
deriving DecidableEq

/-- The wording of a mismatch. -/
def Mismatch.message : Mismatch → String
  | kind expected found => "expected " ++ expected ++ ", found " ++ found.kindName
  | range n t => "integer " ++ toString n.toInt ++ " out of range for " ++ t.name
  | calendar fault => fault.message
  | uuid fault => fault.message

/-- An integer; a truth value counts as zero or one. -/
def readInt (t : IntType) : Value → Except Mismatch (BoundedInt t)
  | .int n =>
    match BoundedInt.of? t n.toInt with
    | some m => .ok m
    | none => .error (.range n t)
  | .bool b =>
    match BoundedInt.of? t (if b then 1 else 0) with
    | some m => .ok m
    | none => .error (.range (if b then 1 else 0) t)
  | other => .error (.kind "integer" other)

/-- A truth value; every integer but zero counts as true. -/
def readBool : Value → Except Mismatch Bool
  | .bool b => .ok b
  | .int n => .ok (n != 0)
  | other => .error (.kind "bool" other)

/-- A floating-point number; an integer is rounded to the nearest. -/
def readDouble : Value → Except Mismatch Float
  | .float x => .ok x
  | .int n => .ok (Number.floatOfInt n.toInt)
  | other => .error (.kind "float" other)

/-- Text. -/
def readText : Value → Except Mismatch String
  | .text s => .ok s
  | other => .error (.kind "text" other)

/-- Bytes; text counts as its UTF-8 bytes. -/
def readBytes : Value → Except Mismatch (List UInt8)
  | .blob bs => .ok bs
  | .text s => .ok (Text.utf8 s)
  | other => .error (.kind "blob" other)

/-- A UUID, from its text or its sixteen bytes. -/
def readUuid : Value → Except Mismatch Uuid
  | .text s => (Uuid.parse s).mapError .uuid
  | .blob bs => (Uuid.ofBytes bs).mapError .uuid
  | other => .error (.kind "uuid" other)

/-- Something that is stored as text. -/
def readFromText {α : Type} (expected : String) (parse : String → Except ReadFault α) :
    Value → Except Mismatch α
  | .text s => (parse s).mapError .calendar
  | other => .error (.kind expected other)

/-- The content of a field that a value stands for. -/
def decode : (t : FieldType) → Value → Except Mismatch t.Carrier
  | int t, v => readInt t v
  | bool, v => readBool v
  | single, v => (readDouble v).map Float.toFloat32
  | double, v => readDouble v
  | text, v => readText v
  | bytes, v => readBytes v
  | date, v => readFromText "date text" Date.parse v
  | dateTime, v => readFromText "datetime text" DateTime.parse v
  | timestamp, v => readFromText "rfc3339 text" DateTime.parseUtc v
  | uuid, v => readUuid v
  | value, v => .ok v
  | option _, .null => .ok none
  | option t, v => (decode t v).map some

end FieldType

end BoundSql
