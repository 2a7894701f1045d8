/-
Module: RecordMapping.Number.IntType
Purpose: The eight fixed-width integer types, their numbers and their texts.
Main exports: IntType, IntType.Number, IntType.ofInt?, IntType.Fault, IntType.parse
-/
import RecordMapping.Text.Digits

namespace RecordMapping

/-!
A fixed-width integer type is known by the closed range of integers it holds.
A number of the type carries the proof that it is in range, so a conversion
that would wrap or truncate cannot be written down: it has to go through
`ofInt?`, which refuses.
-/

/-- Signed and unsigned integers of 8, 16, 32 and 64 bits. -/
inductive IntType where
  | int8 | int16 | int32 | int64
  | uint8 | uint16 | uint32 | uint64
deriving Repr, DecidableEq

namespace IntType

/-- The number of bits of a type. -/
def width : IntType → Nat
  | .int8 | .uint8 => 8
  | .int16 | .uint16 => 16
  | .int32 | .uint32 => 32
  | .int64 | .uint64 => 64

/-- Whether a type holds negative numbers. -/
def isSigned : IntType → Bool
  | .int8 | .int16 | .int32 | .int64 => true
  | .uint8 | .uint16 | .uint32 | .uint64 => false

/-- The least number of a type. -/
def least (type : IntType) : Int :=
  if type.isSigned then -(Nat.pow 2 (type.width - 1) : Nat) else 0

/-- The greatest number of a type. -/
def greatest (type : IntType) : Int :=
  if type.isSigned then (Nat.pow 2 (type.width - 1) : Nat) - 1
  else (Nat.pow 2 type.width : Nat) - 1

/-- The short name of a type in messages. -/
def name : IntType → String
  | .int8 => "i8" | .int16 => "i16" | .int32 => "i32" | .int64 => "i64"
  | .uint8 => "u8" | .uint16 => "u16" | .uint32 => "u32" | .uint64 => "u64"

/-- The column type of a type in SQL wording. -/
def sqlName : IntType → String
  | .int8 => "TINYINT" | .int16 => "SMALLINT"
  | .int32 => "INTEGER" | .int64 => "BIGINT"
  | .uint8 => "UTINYINT" | .uint16 => "USMALLINT"
  | .uint32 => "UINTEGER" | .uint64 => "UBIGINT"

/-- Membership in the range of a type. -/
def Holds (type : IntType) (number : Int) : Prop :=
  type.least ≤ number ∧ number ≤ type.greatest

instance (type : IntType) (number : Int) : Decidable (type.Holds number) :=
  inferInstanceAs (Decidable (_ ∧ _))

/-- The integers of a type. -/
abbrev Number (type : IntType) : Type := { number : Int // type.Holds number }

/-- The number of a type with the given value, if there is one. -/
def ofInt? (type : IntType) (number : Int) : Option type.Number :=
  if held : type.Holds number then some ⟨number, held⟩ else none

/-- Zero belongs to every type. -/
def zero (type : IntType) : type.Number :=
  ⟨0, by cases type <;> decide⟩

theorem ofInt?_eq_some_iff {type : IntType} {number : Int} {held : type.Number} :
    type.ofInt? number = some held ↔ held.val = number := by
  unfold ofInt?
  split
  · constructor
    · intro same
      cases same
      rfl
    · intro same
      subst same
      rfl
  · rename_i outside
    constructor
    · intro impossible
      cases impossible
    · intro same
      exact absurd (same ▸ held.property) outside

/-- Why a text denotes no number of a type. -/
inductive Fault where
  | empty
  | invalidDigit
  | tooLarge
  | tooSmall
deriving Repr, DecidableEq

/-- The wording of a fault. -/
def Fault.message : Fault → String
  | .empty => "cannot parse integer from empty string"
  | .invalidDigit => "invalid digit found in string"
  | .tooLarge => "number too large to fit in target type"
  | .tooSmall => "number too small to fit in target type"

/-- A number with one more digit, further from zero. -/
def appendDigit (negative : Bool) (number : Int) (digit : Nat) : Int :=
  if negative then number * 10 - digit else number * 10 + digit

/-- Extends `number` by further digits.  The first character that is no
digit, or the first digit that leaves the range of the type, decides the
fault. -/
def extend (type : IntType) (negative : Bool) (number : Int) :
    List Char → Except Fault Int
  | [] => .ok number
  | character :: rest =>
      match Text.digitValue? character with
      | none => .error .invalidDigit
      | some digit =>
          if type.Holds (appendDigit negative number digit) then
            extend type negative (appendDigit negative number digit) rest
          else .error (if negative then .tooSmall else .tooLarge)

/-- The digits of a number after its sign; a sign needs digits after it. -/
def extendSigned (type : IntType) (negative : Bool) (digits : List Char) :
    Except Fault Int :=
  if digits.isEmpty then .error .invalidDigit
  else extend type negative 0 digits

/-- The integer that a text denotes: an optional sign, which is a minus only
for a signed type, and one or more digits. -/
def parseInt (type : IntType) : List Char → Except Fault Int
  | [] => .error .empty
  | '+' :: digits => extendSigned type false digits
  | '-' :: digits =>
      if type.isSigned then extendSigned type true digits
      else .error .invalidDigit
  | digits => extend type false 0 digits

theorem extend_holds {type : IntType} {negative : Bool} {number result : Int}
    {characters : List Char} (held : type.Holds number)
    (read : extend type negative number characters = .ok result) :
    type.Holds result := by
  induction characters generalizing number with
  | nil =>
      simp only [extend, Except.ok.injEq] at read
      exact read ▸ held
  | cons character rest inductionHypothesis =>
      unfold extend at read
      split at read
      · cases read
      · split at read
        · rename_i next
          exact inductionHypothesis next read
        · cases read

/-- What is read is in range. -/
theorem parseInt_holds {type : IntType} {characters : List Char} {number : Int}
    (read : type.parseInt characters = .ok number) : type.Holds number := by
  unfold parseInt at read
  split at read
  · cases read
  · unfold extendSigned at read
    split at read
    · cases read
    · exact extend_holds type.zero.property read
  · split at read
    · unfold extendSigned at read
      split at read
      · cases read
      · exact extend_holds type.zero.property read
    · cases read
  · exact extend_holds type.zero.property read

/-- The number of a type that a text denotes. -/
def parse (type : IntType) (text : String) : Except Fault type.Number :=
  match read : type.parseInt text.toList with
  | .error fault => .error fault
  | .ok number => .ok ⟨number, parseInt_holds read⟩

end IntType

end RecordMapping
