/-
Module: RecordMapping.Text.Blank
Purpose: White space and the removal of it from either end of a text.
Main exports: isBlank, trimStart, trimEnd, trim
-/

namespace RecordMapping.Text

/-!
White space is the `White_Space` property of Unicode: the ASCII controls from
tab to carriage return, the spaces of every width, and the line and paragraph
separators.  A zero-width space, a byte order mark and the ASCII information
separators do not have the property and are kept by every trim.
-/

/-- The code points with the `White_Space` property, as closed ranges. -/
def blankRanges : List (Nat × Nat) :=
  [(0x09, 0x0D), (0x20, 0x20), (0x85, 0x85), (0xA0, 0xA0), (0x1680, 0x1680),
    (0x2000, 0x200A), (0x2028, 0x2029), (0x202F, 0x202F), (0x205F, 0x205F),
    (0x3000, 0x3000)]

/-- A character is blank when it has the `White_Space` property. -/
def isBlank (character : Char) : Bool :=
  blankRanges.any fun range =>
    range.1 ≤ character.toNat && character.toNat ≤ range.2

/-- The text without its leading blanks. -/
def trimStart (text : String) : String :=
  String.ofList (text.toList.dropWhile isBlank)

/-- The text without its trailing blanks. -/
def trimEnd (text : String) : String :=
  String.ofList (text.toList.reverse.dropWhile isBlank).reverse

/-- The text without the blanks at either end. -/
def trim (text : String) : String :=
  trimEnd (trimStart text)

theorem toList_trimStart (text : String) :
    (trimStart text).toList = text.toList.dropWhile isBlank := by
  simp [trimStart]

theorem toList_trimEnd (text : String) :
    (trimEnd text).toList = (text.toList.reverse.dropWhile isBlank).reverse := by
  simp [trimEnd]

/-- Only blanks are cut off at the end. -/
theorem trimEnd_append_blanks (text : String) :
    ∃ blanks, text = trimEnd text ++ blanks ∧
      ∀ character ∈ blanks.toList, isBlank character = true := by
  refine ⟨String.ofList (text.toList.reverse.takeWhile isBlank).reverse, ?_, ?_⟩
  · apply String.toList_inj.mp
    rw [String.toList_append, toList_trimEnd, String.toList_ofList, ← List.reverse_append,
      List.takeWhile_append_dropWhile, List.reverse_reverse]
  · intro character member
    rw [String.toList_ofList, List.mem_reverse] at member
    exact List.all_eq_true.mp List.all_takeWhile character member

/-- All blanks at the end are cut off. -/
theorem isBlank_of_getLast?_trimEnd {text : String} {character : Char}
    (last : (trimEnd text).toList.getLast? = some character) : isBlank character = false := by
  rw [toList_trimEnd, List.getLast?_reverse] at last
  have stops := List.head?_dropWhile_not isBlank text.toList.reverse
  simpa [last] using stops

end RecordMapping.Text
