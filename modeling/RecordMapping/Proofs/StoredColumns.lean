/-
Module: RecordMapping.Proofs.StoredColumns
Purpose: What the columns of a row, or a number that was reported, leave in a record.
Main exports: RecordMeta.valuesFor, Record.SetFrom, Record.StoredFrom, Record.NumberStored,
  Provider.storedFrom_writeBack
-/
import RecordMapping.Provider

namespace RecordMapping

/-!
A row is stored column by column, and a field that several columns are mapped to receives
them one after another.  What is left in a record is described field by field instead: each
has received the values of its own columns, in their order, and without a column it keeps
its cell.
-/

/-- The values of the columns that are mapped to the field at an index, in order. -/
def RecordMeta.valuesFor (metadata : RecordMeta) (columns : List (String × Value))
    (index : Nat) : List Value :=
  columns.filterMap fun column =>
    if metadata.fieldIndex? column.1 = some index then some column.2 else none

/-- The cell of a field after values have been stored in it one after another. -/
def FieldContent.storeAll (content : FieldContent) (present : Cell) (values : List Value) :
    Outcome Cell :=
  values.foldlM content.store present

/-- Every field of a record has received the values of its columns, and a field that no
column is mapped to has kept its cell. -/
structure Record.SetFrom (metadata : RecordMeta) (columns : List (String × Value))
    (record stored : Record) : Prop where
  frame : stored.frame = record.frame
  cells : ∀ (index : Nat) (field : Field) (present : Cell),
    record.type.fields[index]? = some field → record.cells[index]? = some present →
      ∃ cell, stored.cells[index]? = some cell ∧
        field.content.storeAll present (metadata.valuesFor columns index) = .ok cell
  others : ∀ index, metadata.valuesFor columns index = [] →
    stored.cells[index]? = record.cells[index]?

/-- Columns are stored in a record up to the first value that does not convert, and it
fails the storing. -/
inductive Record.StoredFrom (metadata : RecordMeta) (columns : List (String × Value))
    (record : Record) : Record → Outcome Unit → Prop
  | all {stored : Record} (set : record.SetFrom metadata columns stored) :
      StoredFrom metadata columns record stored (.ok ())
  | partly {front rest : List (String × Value)} {label : String} {value : Value}
      {index : Nat} {stored : Record} {failure : Failure}
      (split : columns = front ++ (label, value) :: rest)
      (set : record.SetFrom metadata front stored)
      (mapped : metadata.fieldIndex? label = some index)
      (refused : stored.set index value = .error failure) :
      StoredFrom metadata columns record stored (.error (failure.within (.writingBack label)))

namespace Record

variable {metadata : RecordMeta} {columns front : List (String × Value)}
  {record between stored : Record} {label : String} {value : Value} {index : Nat}

/-- Storing a value puts a cell in the place of another. -/
theorem set_eq_ok_iff :
    record.set index value = .ok stored ↔
      ∃ field present cell, record.type.fields[index]? = some field ∧
        record.cells[index]? = some present ∧ field.content.store present value = .ok cell ∧
        stored = { record with cells := record.cells.set index cell } := by
  unfold set
  constructor
  · intro success
    split at success
    · rename_i field present defined held
      split at success
      · rename_i cell stores
        cases success
        exact ⟨field, present, cell, defined, held, stores, rfl⟩
      · cases success
    · cases success
  · rintro ⟨field, present, cell, defined, held, stores, rfl⟩
    simp only [defined, held, stores]

theorem cells_of_set (success : record.set index value = .ok stored) {other : Nat}
    (apart : other ≠ index) : stored.cells[other]? = record.cells[other]? := by
  obtain ⟨_, _, _, _, _, _, rfl⟩ := set_eq_ok_iff.mp success
  exact List.getElem?_set_ne apart.symm

theorem setFrom_nil (record : Record) : record.SetFrom metadata [] record :=
  ⟨rfl, fun _ _ present _ held => ⟨present, held, rfl⟩, fun _ _ => rfl⟩

theorem SetFrom.skip (unmapped : metadata.fieldIndex? label = none)
    (set : record.SetFrom metadata columns stored) :
    record.SetFrom metadata ((label, value) :: columns) stored := by
  have same : ∀ index, metadata.valuesFor ((label, value) :: columns) index =
      metadata.valuesFor columns index := by
    intro index
    simp [RecordMeta.valuesFor, unmapped]
  refine ⟨set.frame, fun index field present defined held => ?_, fun index none => ?_⟩
  · rw [same index]
    exact set.cells index field present defined held
  · exact set.others index (same index ▸ none)

/-- A column that is stored first is the first one of its field. -/
theorem SetFrom.step (mapped : metadata.fieldIndex? label = some index)
    (first : record.set index value = .ok between)
    (set : between.SetFrom metadata columns stored) :
    record.SetFrom metadata ((label, value) :: columns) stored := by
  obtain ⟨field, present, cell, defined, held, stores, rfl⟩ := set_eq_ok_iff.mp first
  have here : metadata.valuesFor ((label, value) :: columns) index =
      value :: metadata.valuesFor columns index := by
    simp [RecordMeta.valuesFor, mapped]
  have elsewhere : ∀ {other}, index ≠ other →
      metadata.valuesFor ((label, value) :: columns) other =
        metadata.valuesFor columns other := by
    intro other apart
    simp [RecordMeta.valuesFor, mapped, apart]
  refine ⟨set.frame, fun other otherField earlier otherDefined otherHeld => ?_,
    fun other none => ?_⟩
  · by_cases same : index = other
    · subst same
      obtain rfl := Option.some.inj (defined.symm.trans otherDefined)
      obtain rfl := Option.some.inj (held.symm.trans otherHeld)
      have placed : index < record.cells.length := (List.getElem?_eq_some_iff.mp held).1
      obtain ⟨final, kept, all⟩ :=
        set.cells index field cell defined (List.getElem?_set_self placed)
      refine ⟨final, kept, ?_⟩
      rw [here, FieldContent.storeAll, List.foldlM_cons, stores]
      exact all
    · rw [elsewhere same]
      exact set.cells other otherField earlier otherDefined
        ((List.getElem?_set_ne same).trans otherHeld)
  · by_cases same : index = other
    · subst same
      rw [here] at none
      cases none
    · rw [elsewhere same] at none
      exact (set.others other none).trans (List.getElem?_set_ne same)

end Record

/-- Storing the columns of a row in their order stores in each field what is its own. -/
theorem Provider.storedFrom_writeBack {metadata : RecordMeta}
    {columns : List (String × Value)} {record stored : Record} {outcome : Outcome Unit}
    (written : writeBack metadata columns record = (stored, outcome)) :
    record.StoredFrom metadata columns stored outcome := by
  induction columns generalizing record with
  | nil =>
      cases written
      exact .all (Record.setFrom_nil _)
  | cons column rest inductionHypothesis =>
      obtain ⟨label, value⟩ := column
      unfold writeBack at written
      split at written
      · rename_i unmapped
        cases inductionHypothesis written with
        | all set => exact .all (set.skip unmapped)
        | partly split set mapped refused =>
            exact .partly (congrArg ((label, value) :: ·) split) (set.skip unmapped) mapped refused
      · rename_i index mapped
        split at written
        · rename_i between first
          cases inductionHypothesis written with
          | all set => exact .all (set.step mapped first)
          | partly split set later refused =>
              exact .partly (congrArg ((label, value) :: ·) split) (set.step mapped first) later
                refused
        · rename_i failure refused
          cases written
          have split : (label, value) :: rest = [] ++ (label, value) :: rest := rfl
          exact .partly split (Record.setFrom_nil _) mapped refused

/-- A field that no column is mapped to keeps its cell. -/
theorem Record.StoredFrom.others {metadata : RecordMeta} {columns : List (String × Value)}
    {record stored : Record} {outcome : Outcome Unit} {index : Nat}
    (set : record.StoredFrom metadata columns stored outcome)
    (foreign : ∀ column ∈ columns, metadata.fieldIndex? column.1 ≠ some index) :
    stored.cells[index]? = record.cells[index]? := by
  have none : ∀ {front rest}, columns = front ++ rest → metadata.valuesFor front index = [] := by
    rintro front rest rfl
    refine List.filterMap_eq_nil_iff.mpr fun column member => ?_
    exact if_neg (foreign column (List.mem_append_left _ member))
  cases set with
  | all set => exact set.others index (none (List.append_nil _).symm)
  | partly split set _ _ => exact set.others index (none split)

/-- The number that a driver has reported is stored in a field, or does not fit there and
fails the insert. -/
inductive Record.NumberStored (record : Record) (index : Nat) (number : Int) :
    Record → Outcome Unit → Prop
  | fits {stored : Record} (set : record.set index (.ofInt .int64 number) = .ok stored) :
      NumberStored record index number stored (.ok ())
  | refused {failure : Failure}
      (unset : record.set index (.ofInt .int64 number) = .error failure) :
      NumberStored record index number record (.error (failure.within (.writingBackId number)))

/-- A number changes no other field than its own. -/
theorem Record.NumberStored.others {index : Nat} {number : Int} {record left : Record}
    {outcome : Outcome Unit} (stored : record.NumberStored index number left outcome)
    {other : Nat} (apart : other ≠ index) : left.cells[other]? = record.cells[other]? := by
  cases stored with
  | fits set => exact Record.cells_of_set set apart
  | refused _ => rfl

end RecordMapping
