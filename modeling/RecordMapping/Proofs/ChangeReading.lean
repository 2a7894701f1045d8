/-
Module: RecordMapping.Proofs.ChangeReading
Purpose: Columns with a placeholder each, and the text of a delete, read by their
  dialect.
Main exports: Grammar.binding, Grammar.conditions, Grammar.DeleteText, Grammar.readDelete,
  Grammar.reads_bindings, Grammar.reads_conditions, Grammar.readDelete_text
-/
import RecordMapping.Proofs.InsertReading
import RecordMapping.Statement.Change

namespace RecordMapping

/-- The closing quote of a dialect is no blank, so that it cannot be what stands
behind an identifier in a change. -/
def Dialect.Spaced (dialect : Dialect) : Prop :=
  dialect.quotes.closing ∉ ['\n', ' ']

theorem Dialect.spaced_of_known {dialect : Dialect} (spoken : dialect ∈ known) :
    dialect.Spaced := by
  intro blank
  have several : ['\n', ' '] ⊆ [',', ')', '\n', ' '] := by decide
  exact (legible_of_known spoken).closing (several blank)

namespace Grammar

/-!
A change names columns and says for each which parameter is assigned to it or has
to equal it.  The reader below finds the pairs between separators, whatever the
columns are called.
-/

/-! ### The grammar -/

/-- A column and the index of its parameter, at a position among the placeholders. -/
def binding (dialect : Dialect) (position : Nat) : Reader (String × Nat) := do
  let column ← identifier dialect
  require " = "
  let index ← placeholder dialect position
  return (column, index)

/-- The conditions of a change, of which there is at least one; `first` placeholders
stand in front of them. -/
def conditions (dialect : Dialect) (first : Nat) : Reader (List (String × Nat)) := do
  require "\nWHERE "
  list " AND " fun index => binding dialect (first + index)

/-- What the text of a delete says: the table, and the columns that have to equal
the parameters with the given indexes, all of them. -/
structure DeleteText where
  table : String
  conditions : List (String × Nat)
deriving Repr, DecidableEq

/-- A delete of a dialect. -/
def deletion (dialect : Dialect) : Reader DeleteText := do
  require "DELETE FROM "
  let table ← identifier dialect
  let found ← conditions dialect 0
  return ⟨table, found⟩

/-- A text that is a delete from its beginning to its end. -/
def readDelete (dialect : Dialect) (text : String) : Option DeleteText :=
  match deletion dialect text.toList with
  | some (delete, []) => some delete
  | _ => none

/-! ### The pieces of a change -/

variable {dialect : Dialect}

theorem reads_binding (spaced : dialect.Spaced) (column : String) (index : Nat) :
    Reads (binding dialect index)
      (dialect.identifier column ++ " = " ++ dialect.placeholder index) (column, index)
      EndsNumber := by
  have parameter : Reads (do require " = "; return (column, ← placeholder dialect index))
      (" = " ++ dialect.placeholder index) (column, index) EndsNumber :=
    (reads_require " = ").bind ((reads_placeholder dialect index).map fun found => (column, found))
      fun _ _ => trivial
  rw [String.append_assoc]
  refine (reads_identifier dialect column).bind parameter ?_
  intro rest _
  rw [String.toList_append, List.append_assoc]
  exact endsName_of_begins spaced (List.prefix_append _ _) (by decide)

/-- Columns with consecutive placeholders are read back as the columns with their
indexes, if the separator does not look like a digit. -/
theorem reads_bindings (spaced : dialect.Spaced) {separator : String}
    (written : separator ≠ "") (separates : ∀ rest, EndsNumber (separator.toList ++ rest))
    (first : Nat) {columns : List String} (nonempty : columns ≠ []) :
    Reads (list separator fun index => binding dialect (first + index))
      (Text.separated separator (dialect.bindings first columns)) (columns.zipIdx first)
      fun rest => EndsNumber rest ∧ ¬ separator.toList <+: rest := by
  let write : String × Nat → String := fun pair =>
    dialect.identifier pair.1 ++ " = " ++ dialect.placeholder pair.2
  have pairs : dialect.bindings first columns = (columns.zipIdx first).map write := by
    have shifted : columns.zipIdx first =
        columns.zipIdx.map fun pair => (pair.1, first + pair.2) :=
      List.zipIdx_eq_map_add
    rw [Dialect.bindings, shifted, List.map_map]
    rfl
  have allWritten : ∀ item ∈ (columns.zipIdx first).map write, item ≠ "" := by
    intro item member blank
    obtain ⟨pair, _, rfl⟩ := List.mem_map.mp member
    have named := (String.append_eq_empty_iff.mp (String.append_eq_empty_iff.mp blank).1).1
    exact dialect.quotes.quote_ne_empty pair.1 named
  rw [pairs, Text.separated_eq_intercalate allWritten]
  refine reads_list written separates (by simpa using nonempty) fun index inside => ?_
  rw [List.getElem_zipIdx]
  exact reads_binding spaced _ _

theorem reads_conditions (spaced : dialect.Spaced) (first : Nat) {columns : List String}
    (nonempty : columns ≠ []) :
    Reads (conditions dialect first) (dialect.conditions first columns)
      (columns.zipIdx first) fun rest => rest = [] := by
  have pairs := reads_bindings spaced (by decide : " AND " ≠ "") (by simp [EndsNumber]) first
    nonempty
  refine (reads_require "\nWHERE ").bind (pairs.weaken ?_) fun _ _ => trivial
  rintro _ rfl
  exact ⟨by simp [EndsNumber], by simp⟩

/-- A delete is read as its table and the columns of its conditions, which have the
parameters in order. -/
theorem readDelete_text (spaced : dialect.Spaced) (table : String) {columns : List String}
    (nonempty : columns ≠ []) :
    readDelete dialect
        ("DELETE FROM " ++ dialect.identifier table ++ dialect.conditions 0 columns) =
      some ⟨table, columns.zipIdx⟩ := by
  have whole : Reads (deletion dialect)
      ("DELETE FROM " ++ (dialect.identifier table ++ dialect.conditions 0 columns))
      ⟨table, columns.zipIdx⟩ fun rest => rest = [] := by
    refine (reads_require "DELETE FROM ").bind ?_ fun _ _ => trivial
    refine (reads_identifier dialect table).bind
      ((reads_conditions spaced 0 nonempty).map (DeleteText.mk table)) ?_
    intro rest _
    rw [Dialect.conditions, String.toList_append, List.append_assoc]
    exact endsName_of_begins spaced (List.prefix_append _ _) (by decide)
  have read := whole [] rfl
  rw [List.append_nil, ← String.append_assoc] at read
  simp only [readDelete, read]

end Grammar

end RecordMapping
