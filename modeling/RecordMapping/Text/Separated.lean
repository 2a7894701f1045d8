/-
Module: RecordMapping.Text.Separated
Purpose: Written items with separators between them.
Main exports: separatedAfter, separated, separated_eq_intercalate
-/

namespace RecordMapping.Text

/-!
A list is written item by item.  A separator goes in front of an item exactly
when the item before it has written something; an item that writes nothing is
followed by no separator of its own, but one that stands after a written item
still has the separator in front of it.
-/

/-- The items written after one that has (`written`) or has not written. -/
def separatedAfter (separator : String) : Bool → List String → String
  | _, [] => ""
  | written, item :: rest =>
      (if written then separator else "") ++ item ++
        separatedAfter separator (item != "") rest

/-- The items with a separator after each one that has written something. -/
def separated (separator : String) (items : List String) : String :=
  separatedAfter separator false items

@[simp] theorem separated_nil (separator : String) :
    separated separator [] = "" := rfl

/-- After a written item, further items are a list of their own behind a
separator. -/
theorem separatedAfter_true_cons (separator item : String) (rest : List String) :
    separatedAfter separator true (item :: rest) =
      separator ++ separated separator (item :: rest) := by
  simp [separated, separatedAfter, String.append_assoc]

/-- A list of items that all write something has a separator between each two
neighbours and none elsewhere. -/
theorem separated_eq_intercalate {separator : String} {items : List String}
    (written : ∀ item ∈ items, item ≠ "") :
    separated separator items = separator.intercalate items := by
  induction items with
  | nil => simp
  | cons item rest inductionHypothesis =>
      have itemWritten : (item != "") = true := by
        simpa using written item (by simp)
      have restSeparated := inductionHypothesis fun other member =>
        written other (List.mem_cons_of_mem _ member)
      cases rest with
      | nil => simp [separated, separatedAfter]
      | cons next more =>
          rw [String.intercalate_cons_cons, ← restSeparated, String.append_assoc,
            ← separatedAfter_true_cons]
          simp [separated, separatedAfter, itemWritten]

end RecordMapping.Text
