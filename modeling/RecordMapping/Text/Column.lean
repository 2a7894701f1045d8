/-
Module: RecordMapping.Text.Column
Purpose: Column names compared without regard to ASCII case.
Main exports: columnKey, sameColumn
-/

namespace RecordMapping.Text

/-!
Engines differ in the case in which they report a column label, so a label is
matched to a column by its key: the name with the twenty-six ASCII capitals
lowered.  Any other character, accented capitals included, is compared as it
is.
-/

/-- The key of a column name: its ASCII capitals lowered, the rest kept. -/
def columnKey (name : String) : String :=
  String.ofList (name.toList.map Char.toLower)

/-- Two names denote the same column when their keys are equal. -/
def sameColumn (first second : String) : Bool :=
  columnKey first == columnKey second

theorem sameColumn_iff {first second : String} :
    sameColumn first second = true ↔ columnKey first = columnKey second := by
  simp [sameColumn]

@[simp] theorem sameColumn_self (name : String) : sameColumn name name = true := by
  simp [sameColumn]

theorem sameColumn_comm (first second : String) :
    sameColumn first second = sameColumn second first := by
  rw [Bool.eq_iff_iff, sameColumn_iff, sameColumn_iff]
  exact eq_comm

end RecordMapping.Text
