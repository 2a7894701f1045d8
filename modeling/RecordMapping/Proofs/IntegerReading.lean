/-
Module: RecordMapping.Proofs.IntegerReading
Purpose: Which cells are integers of a type, and that the integer read is the one denoted.
Main exports: Text.Framed, IntType.Numeral, IntType.parse_eq_ok_iff, Value.DenotesInt,
  RecordMapping.integers_read_exactly
-/
import Mathlib.Data.List.TakeWhile
import RecordMapping.Proofs.DigitReading
import RecordMapping.Proofs.OwnContents

namespace RecordMapping

/-!
A cell denotes an integer when it holds one of any width, a truth value, or a decimal whose
places are all zero; a text denotes one when it is a numeral between blanks.  The reading
of a type gives the very integer where the type holds it, and a failure everywhere else.
-/

namespace Text

/-! ### Texts between blanks -/

/-- A text that is `core` between blanks. -/
def Framed (text : String) (core : List Char) : Prop :=
  ∃ front back, text.toList = front ++ core ++ back ∧
    (∀ character ∈ front, isBlank character = true) ∧
      ∀ character ∈ back, isBlank character = true

theorem framed_trim (text : String) : Framed text (trim text).toList := by
  have begun := List.takeWhile_append_dropWhile (p := isBlank) (l := text.toList)
  have ended := List.takeWhile_append_dropWhile (p := isBlank)
    (l := (text.toList.dropWhile isBlank).reverse)
  refine ⟨text.toList.takeWhile isBlank,
    ((text.toList.dropWhile isBlank).reverse.takeWhile isBlank).reverse, ?_, ?_, ?_⟩
  · rw [trim, toList_trimEnd, toList_trimStart, List.append_assoc, ← List.reverse_append, ended,
      List.reverse_reverse, begun]
  · exact fun character member => List.mem_takeWhile_imp member
  · exact fun character member => List.mem_takeWhile_imp (List.mem_reverse.mp member)

/-- The trim of a framed text is its core, unless that has blanks at its ends itself. -/
theorem toList_trim_of_framed {text : String} {core : List Char} (framed : Framed text core)
    (filled : core ≠ []) (clear : ∀ character ∈ core, isBlank character = false) :
    (trim text).toList = core := by
  obtain ⟨front, back, split, blankFront, blankBack⟩ := framed
  have started : (core ++ back).dropWhile isBlank = core ++ back := by
    apply dropWhile_of_head
    intro character first
    obtain ⟨head, tail, rfl⟩ := List.exists_cons_of_ne_nil filled
    exact clear character (by simp_all)
  have turned : core.reverse.dropWhile isBlank = core.reverse :=
    dropWhile_of_head fun character first =>
      clear character (List.mem_reverse.mp (List.mem_of_mem_head? first))
  rw [trim, toList_trimEnd, toList_trimStart, split, List.append_assoc,
    List.dropWhile_append_of_pos blankFront, started, List.reverse_append,
    List.dropWhile_append_of_pos fun character member => blankBack _ (List.mem_reverse.mp member),
    turned, List.reverse_reverse]

end Text

namespace IntType

/-! ### Numerals of a type -/

/-- One or more ASCII digits and nothing else. -/
def AreDigits (characters : List Char) : Prop :=
  characters ≠ [] ∧ ∀ character ∈ characters, character.isDigit = true

/-- The numerals that a type is read from: digits behind an optional sign, which is a minus
only for a signed type. -/
inductive Numeral (type : IntType) : List Char → Int → Prop
  | plain {digits : List Char} (decimal : AreDigits digits) :
      Numeral type digits (Nat.ofDigitChars 10 digits 0)
  | plus {digits : List Char} (decimal : AreDigits digits) :
      Numeral type ('+' :: digits) (Nat.ofDigitChars 10 digits 0)
  | minus {digits : List Char} (signed : type.isSigned = true) (decimal : AreDigits digits) :
      Numeral type ('-' :: digits) (-(Nat.ofDigitChars 10 digits 0 : Int))

/-- A magnitude with a sign. -/
def signedBy (negative : Bool) (magnitude : Nat) : Int :=
  if negative then -magnitude else magnitude

variable {type : IntType} {negative : Bool}

theorem appendDigit_signedBy (magnitude digit : Nat) :
    appendDigit negative (signedBy negative magnitude) digit =
      signedBy negative (10 * magnitude + digit) := by
  cases negative <;> simp [appendDigit, signedBy] <;> omega

theorem least_nonpos (type : IntType) : type.least ≤ 0 := type.zero.property.1

theorem greatest_nonneg (type : IntType) : 0 ≤ type.greatest := type.zero.property.2

/-- Between zero and a number of a type there are numbers of the type only. -/
theorem Holds.of_le {smaller greater : Nat} (held : type.Holds (signedBy negative greater))
    (le : smaller ≤ greater) : type.Holds (signedBy negative smaller) := by
  have low := type.least_nonpos
  have high := type.greatest_nonneg
  unfold Holds signedBy at *
  cases negative <;> simp at held ⊢ <;> omega

theorem le_ofDigitChars (characters : List Char) (magnitude : Nat) :
    magnitude ≤ Nat.ofDigitChars 10 characters magnitude := by
  induction characters generalizing magnitude with
  | nil => exact Nat.le_refl _
  | cons character rest inductionHypothesis =>
      have := inductionHypothesis (10 * magnitude + (character.toNat - '0'.toNat))
      rw [Nat.ofDigitChars_cons]
      omega

theorem digitValue?_of_not_isDigit {character : Char} (other : character.isDigit = false) :
    Text.digitValue? character = none := by
  have range : ¬ ('0' ≤ character ∧ character ≤ '9') := by
    simpa [Char.isDigit, Char.le_def] using other
  simp [Text.digitValue?, range]

/-- A number is extended by digits as far as the type holds the result; since the numbers on
the way lie between zero and the result, no bound is met before. -/
theorem extend_eq_ok_iff {magnitude : Nat} {characters : List Char} {result : Int}
    (held : type.Holds (signedBy negative magnitude)) :
    extend type negative (signedBy negative magnitude) characters = .ok result ↔
      (∀ character ∈ characters, character.isDigit = true) ∧
        result = signedBy negative (Nat.ofDigitChars 10 characters magnitude) ∧
          type.Holds result := by
  induction characters generalizing magnitude with
  | nil =>
      simp only [extend, Except.ok.injEq, List.not_mem_nil, false_implies, implies_true,
        true_and, Nat.ofDigitChars_nil]
      constructor
      · rintro rfl
        exact ⟨rfl, held⟩
      · exact fun found => found.1.symm
  | cons character rest inductionHypothesis =>
      rw [extend, List.forall_mem_cons]
      cases digit : character.isDigit with
      | false => simp [digitValue?_of_not_isDigit digit]
      | true =>
          simp only [Text.digitValue?_of_isDigit digit, appendDigit_signedBy, Text.digitValue,
            Nat.ofDigitChars_cons, true_and]
          by_cases next : type.Holds
              (signedBy negative (10 * magnitude + (character.toNat - '0'.toNat)))
          · rw [if_pos next, inductionHypothesis next]
          · rw [if_neg next]
            constructor
            · intro impossible
              cases impossible
            · rintro ⟨_, rfl, beyond⟩
              exact absurd (beyond.of_le (le_ofDigitChars rest _)) next

theorem extend_zero_eq_ok_iff {characters : List Char} {result : Int} :
    extend type negative 0 characters = .ok result ↔
      (∀ character ∈ characters, character.isDigit = true) ∧
        result = signedBy negative (Nat.ofDigitChars 10 characters 0) ∧ type.Holds result := by
  have start : signedBy negative 0 = 0 := by cases negative <;> rfl
  have zero : type.Holds (signedBy negative 0) := by
    rw [start]
    exact type.zero.property
  have found : extend type negative (signedBy negative 0) characters = .ok result ↔ _ :=
    extend_eq_ok_iff zero
  simpa only [start] using found

theorem extendSigned_eq_ok_iff {digits : List Char} {result : Int} :
    extendSigned type negative digits = .ok result ↔
      AreDigits digits ∧ result = signedBy negative (Nat.ofDigitChars 10 digits 0) ∧
        type.Holds result := by
  unfold extendSigned AreDigits
  cases digits with
  | nil => simp
  | cons first rest => simp [extend_zero_eq_ok_iff]

theorem AreDigits.head {first : Char} {rest : List Char} (decimal : AreDigits (first :: rest)) :
    first.isDigit = true := decimal.2 first List.mem_cons_self

/-- A text is read as an integer exactly when it is a numeral of a number of the type. -/
theorem parseInt_eq_ok_iff {characters : List Char} {number : Int} :
    type.parseInt characters = .ok number ↔
      type.Numeral characters number ∧ type.Holds number := by
  unfold parseInt
  split
  · refine ⟨nofun, fun found => ?_⟩
    cases found.1 with
    | plain decimal => exact absurd rfl decimal.1
  · rename_i digits
    rw [extendSigned_eq_ok_iff]
    constructor
    · rintro ⟨decimal, rfl, held⟩
      exact ⟨.plus decimal, held⟩
    · rintro ⟨numeral, held⟩
      cases numeral with
      | plain decimal => exact absurd decimal.head (by decide)
      | plus decimal => exact ⟨decimal, rfl, held⟩
  · rename_i digits
    split
    · rename_i signed
      rw [extendSigned_eq_ok_iff]
      constructor
      · rintro ⟨decimal, rfl, held⟩
        exact ⟨.minus signed decimal, held⟩
      · rintro ⟨numeral, held⟩
        cases numeral with
        | plain decimal => exact absurd decimal.head (by decide)
        | minus _ decimal => exact ⟨decimal, rfl, held⟩
    · rename_i unsigned
      refine ⟨nofun, fun found => ?_⟩
      cases found.1 with
      | plain decimal => exact absurd decimal.head (by decide)
      | minus signed _ => exact absurd signed unsigned
  · rename_i filled noPlus noMinus
    rw [extend_zero_eq_ok_iff]
    constructor
    · rintro ⟨decimal, rfl, held⟩
      exact ⟨.plain ⟨filled, decimal⟩, held⟩
    · rintro ⟨numeral, held⟩
      cases numeral with
      | plain decimal => exact ⟨decimal.2, rfl, held⟩
      | plus _ => exact absurd rfl (noPlus _)
      | minus _ _ => exact absurd rfl (noMinus _)

theorem parse_eq_ok_iff {text : String} {number : type.Number} :
    type.parse text = .ok number ↔ type.Numeral text.toList number.val := by
  have read : type.parseInt text.toList = .ok number.val ↔ _ := parseInt_eq_ok_iff
  simp only [number.property, and_true] at read
  rw [← read]
  unfold parse
  split
  · rename_i fault failed
    simp [failed]
  · rename_i found parsed
    simp only [parsed, Except.ok.injEq]
    exact Subtype.ext_iff

theorem Numeral.ne_nil {characters : List Char} {number : Int}
    (numeral : type.Numeral characters number) : characters ≠ [] := by
  cases numeral with
  | plain decimal => exact decimal.1
  | plus _ => exact List.cons_ne_nil _ _
  | minus _ _ => exact List.cons_ne_nil _ _

theorem Numeral.not_blank {characters : List Char} {number : Int}
    (numeral : type.Numeral characters number) :
    ∀ character ∈ characters, Text.isBlank character = false := by
  cases numeral with
  | plain decimal => exact fun _ member => Text.isBlank_of_isDigit (decimal.2 _ member)
  | plus decimal =>
      exact List.forall_mem_cons.mpr
        ⟨by decide, fun _ member => Text.isBlank_of_isDigit (decimal.2 _ member)⟩
  | minus _ decimal =>
      exact List.forall_mem_cons.mpr
        ⟨by decide, fun _ member => Text.isBlank_of_isDigit (decimal.2 _ member)⟩

/-- A text is a numeral of one number, whatever the types it is read as. -/
theorem Numeral.unique {other : IntType} {characters : List Char} {one two : Int}
    (numeral : type.Numeral characters one) (again : other.Numeral characters two) :
    one = two := by
  cases numeral with
  | plain decimal =>
      cases again with
      | plain _ => rfl
      | plus _ => exact absurd decimal.head (by decide)
      | minus _ _ => exact absurd decimal.head (by decide)
  | plus _ =>
      cases again with
      | plain decimal => exact absurd decimal.head (by decide)
      | plus _ => rfl
  | minus _ _ =>
      cases again with
      | plain decimal => exact absurd decimal.head (by decide)
      | minus _ _ => rfl

/-- The digits of a number are a numeral of it, with a minus if the type has one. -/
theorem numeral_toString {number : Int} (fits : number < 0 → type.isSigned = true) :
    type.Numeral (toString number).toList number := by
  have digits : ∀ magnitude : Nat, AreDigits (Nat.toDigits 10 magnitude) := fun magnitude =>
    ⟨Nat.toDigits_ne_nil,
      fun _ member => Nat.isDigit_of_mem_toDigits (by decide) (by decide) member⟩
  cases number with
  | ofNat magnitude =>
      have written : (toString (Int.ofNat magnitude)).toList = Nat.toDigits 10 magnitude :=
        Nat.toList_repr
      have numeral := @Numeral.plain type _ (digits magnitude)
      rw [Nat.ofDigitChars_ten_toDigits] at numeral
      rw [written]
      exact numeral
  | negSucc magnitude =>
      have written : (toString (Int.negSucc magnitude)).toList =
          '-' :: Nat.toDigits 10 (magnitude + 1) := by
        have signed : toString (Int.negSucc magnitude) = "-" ++ (magnitude + 1).repr := rfl
        rw [signed, String.toList_append, Nat.toList_repr]
        rfl
      have numeral := Numeral.minus (fits (Int.negSucc_lt_zero magnitude)) (digits (magnitude + 1))
      rw [Nat.ofDigitChars_ten_toDigits] at numeral
      rw [written]
      exact numeral

theorem isSigned_of_holds {number : Int} (held : type.Holds number) (negative : number < 0) :
    type.isSigned = true := by
  have low := held.1
  cases signed : type.isSigned with
  | true => rfl
  | false =>
      simp [least, signed] at low
      omega

end IntType

/-- A decimal is without fraction exactly when its mantissa is an integer with as many zeros
behind it as there are places. -/
theorem Decimal.isIntegral_iff {content : Decimal} :
    content.isIntegral = true ↔
      ∃ number : Int, content.mantissa = number * 10 ^ content.scale := by
  have power : ((10 ^ content.scale : Nat) : Int) = 10 ^ content.scale := by push_cast; rfl
  rw [isIntegral, beq_iff_eq, Nat.pow_eq, ← Nat.dvd_iff_mod_eq_zero, ← Int.natCast_dvd, power]
  constructor
  · rintro ⟨number, whole⟩
    exact ⟨number, whole.trans (Int.mul_comm _ _)⟩
  · rintro ⟨number, whole⟩
    exact ⟨number, whole.trans (Int.mul_comm _ _)⟩

theorem Decimal.whole_eq {content : Decimal} {number : Int}
    (integral : content.mantissa = number * 10 ^ content.scale) : content.whole = number := by
  have positive : (0 : Int) < 10 ^ content.scale := Int.pow_pos (by decide)
  have power : ((Nat.pow 10 content.scale : Nat) : Int) = 10 ^ content.scale := by
    rw [Nat.pow_eq]
    push_cast
    rfl
  rw [whole, integral, power, Int.mul_tdiv_cancel _ positive.ne']

namespace Value

/-! ### Cells as integers -/

/-- The cells that denote an integer without being read: the integers of every width, the
truth values as one and zero, and the decimals without fraction, whatever their places. -/
inductive DenotesInt : Value → Int → Prop
  | integer {type : IntType} (number : type.Number) :
      DenotesInt (.integer type (some number)) number.val
  | truth : DenotesInt (.boolean (some true)) 1
  | falsehood : DenotesInt (.boolean (some false)) 0
  | decimal {content : Decimal} {number : Int}
      (whole : content.mantissa = number * 10 ^ content.scale) :
      DenotesInt (.decimal (some content)) number

variable {type : IntType} {value : Value}

theorem integerInRange_eq_ok_iff {number : Int} {held : type.Number} :
    integerInRange type number = .ok held ↔ held.val = number := by
  rw [← IntType.ofInt?_eq_some_iff, integerInRange]
  cases type.ofInt? number with
  | none => simp
  | some found => simp

/-- A cell that denotes an integer is read by checking its range and nothing else. -/
theorem DenotesInt.toInteger {number : Int} (denotes : value.DenotesInt number) :
    value.toInteger type = integerInRange type number := by
  cases denotes with
  | integer number => rfl
  | truth => rfl
  | falsehood => rfl
  | @decimal content number whole =>
      have integral : content.isIntegral = true := Decimal.isIntegral_iff.mpr ⟨number, whole⟩
      simp [Value.toInteger, integral, Decimal.whole_eq whole]

theorem toInteger_varchar_eq_ok_iff {text : String} {number : type.Number} :
    (varchar (some text)).toInteger type = .ok number ↔
      ∃ core, Text.Framed text core ∧ type.Numeral core number.val := by
  have read : (varchar (some text)).toInteger type = .ok number ↔
      type.parse (Text.trim text) = .ok number := by
    simp only [toInteger]
    cases type.parse (Text.trim text) with
    | error fault => simp
    | ok found => simp
  rw [read, IntType.parse_eq_ok_iff]
  constructor
  · exact fun numeral => ⟨_, Text.framed_trim text, numeral⟩
  · rintro ⟨core, framed, numeral⟩
    rw [Text.toList_trim_of_framed framed numeral.ne_nil numeral.not_blank]
    exact numeral

/-- What denotes no integer and is no text has no integer reading. -/
theorem toInteger_eq_error (nothing : ∀ number, ¬ value.DenotesInt number)
    (noText : ∀ text, value ≠ .varchar (some text)) :
    ∃ failure, value.toInteger type = .error failure := by
  cases value with
  | integer wide content =>
      cases content with
      | none => exact ⟨_, rfl⟩
      | some number => exact absurd (.integer number) (nothing _)
  | boolean content =>
      cases content with
      | none => exact ⟨_, rfl⟩
      | some flag =>
          cases flag with
          | true => exact absurd .truth (nothing _)
          | false => exact absurd .falsehood (nothing _)
  | decimal content =>
      cases content with
      | none => exact ⟨_, rfl⟩
      | some content =>
          have fraction : content.isIntegral = false := by
            rw [Bool.eq_false_iff]
            intro integral
            obtain ⟨number, whole⟩ := Decimal.isIntegral_iff.mp integral
            exact nothing number (.decimal whole)
          exact ⟨_, by simp only [toInteger, fraction]; rfl⟩
  | varchar content =>
      cases content with
      | none => exact ⟨_, rfl⟩
      | some text => exact absurd rfl (noText text)
  | _ => exact ⟨_, rfl⟩

/-- The digits of a number are read as that number, or not at all. -/
theorem toInteger_toString {number : Int} {held : type.Number} :
    (varchar (some (toString number))).toInteger type = .ok held ↔ held.val = number := by
  have written : IntType.int64.Numeral (toString number).toList number :=
    IntType.numeral_toString fun _ => rfl
  rw [toInteger_varchar_eq_ok_iff]
  constructor
  · rintro ⟨core, framed, numeral⟩
    have same : (toString number).toList = core := by
      rw [← Text.toList_trim_of_framed framed numeral.ne_nil numeral.not_blank,
        Text.trim_of_clear written.not_blank]
    rw [← same] at numeral
    exact numeral.unique written
  · rintro rfl
    exact ⟨_, ⟨[], [], by simp, by simp, by simp⟩,
      IntType.numeral_toString (IntType.isSigned_of_holds held.property)⟩

end Value

/-- A cell that denotes an integer is read as that very integer by the types that hold it
and fails for the others; a text is read exactly if it is a numeral of the type between
blanks; everything else fails.  So the digits of a number say the same as the number. -/
theorem integers_read_exactly (type : IntType) (value : Value) :
    (∀ number, value.DenotesInt number →
      (∀ held : type.Holds number, value.toInteger type = .ok ⟨number, held⟩) ∧
        (¬ type.Holds number → ∃ failure, value.toInteger type = .error failure)) ∧
    (∀ text, value = .varchar (some text) → ∀ number,
      value.toInteger type = .ok number ↔
        ∃ core, Text.Framed text core ∧ type.Numeral core number.val) ∧
    ((∀ number, ¬ value.DenotesInt number) → (∀ text, value ≠ .varchar (some text)) →
      ∃ failure, value.toInteger type = .error failure) ∧
    ∀ (wide : IntType) (content : wide.Number) (number : type.Number),
      (Value.varchar (some (toString content.val))).toInteger type = .ok number ↔
        (Value.integer wide (some content)).toInteger type = .ok number := by
  refine ⟨fun number denotes => ⟨fun held => ?_, fun outside => ?_⟩, ?_,
    Value.toInteger_eq_error, fun wide content number => ?_⟩
  · rw [denotes.toInteger, Value.integerInRange_eq_ok_iff]
  · cases read : value.toInteger type with
    | error failure => exact ⟨failure, rfl⟩
    | ok found =>
        rw [denotes.toInteger, Value.integerInRange_eq_ok_iff] at read
        exact absurd (read ▸ found.property) outside
  · rintro text rfl number
    exact Value.toInteger_varchar_eq_ok_iff
  · rw [Value.toInteger_toString, (Value.DenotesInt.integer content).toInteger,
      Value.integerInRange_eq_ok_iff]

end RecordMapping
