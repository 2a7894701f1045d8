/-
Module: RecordMapping.Proofs.ColumnLookup
Purpose: What the index of a field list holds, and the lookup of columns in it.
Main exports: ColumnIndex.Enters, RecordMeta.enters_byColumn, RecordMeta.columnKeys_nodup,
  RecordMeta.fieldIndex?_eq_some_iff, RecordMeta.exists_zip_of_fieldIndex?
-/
import Mathlib.Data.List.Nodup
import RecordMapping.Record.Metadata

namespace RecordMapping

/-!
A field list is entered from left to right.  At each step the index holds exactly
the fields in front, every one under the key of its column and with its place, and
this is what makes a column that is already taken known.  The index that metadata
keep is therefore the inverse of the column list: at most one field answers to a
name.
-/

/-- An index holds the places of the fields in `front` by the keys of their columns,
and nothing else. -/
def ColumnIndex.Enters (entered : ColumnIndex) (front : List FieldDef) : Prop :=
  ∀ key place, entered.lookup key = some place ↔
    ∃ definition, front[place]? = some definition ∧ Text.columnKey definition.column = key

theorem ColumnIndex.enters_nil : Enters [] [] := by
  intro key place
  simp

theorem getElem?_concat_eq_some_iff {α : Type} {front : List α} {last item : α} {place : Nat} :
    (front ++ [last])[place]? = some item ↔
      front[place]? = some item ∨ place = front.length ∧ last = item := by
  rw [List.getElem?_append]
  split
  · rename_i inside
    simp [Nat.ne_of_lt inside]
  · rename_i outside
    rw [List.getElem?_eq_none (Nat.le_of_not_lt outside), List.getElem?_singleton]
    constructor
    · intro held
      split at held
      · exact .inr ⟨by omega, Option.some.inj held⟩
      · cases held
    · rintro (impossible | ⟨rfl, rfl⟩)
      · cases impossible
      · simp

/-- A field under a key of its own is entered behind those in front. -/
theorem ColumnIndex.Enters.concat {entered : ColumnIndex} {front : List FieldDef}
    {definition : FieldDef} (enters : entered.Enters front)
    (fresh : entered.lookup (Text.columnKey definition.column) = none) :
    ColumnIndex.Enters ((Text.columnKey definition.column, front.length) :: entered)
      (front ++ [definition]) := by
  intro key place
  simp only [getElem?_concat_eq_some_iff]
  rw [List.lookup_cons]
  split
  · rename_i here
    obtain rfl : key = Text.columnKey definition.column := by simpa using here
    constructor
    · intro found
      exact ⟨definition, .inr ⟨(Option.some.inj found).symm, rfl⟩, rfl⟩
    · rintro ⟨other, held | ⟨rfl, _⟩, same⟩
      · -- a field in front that has the key would have been found
        have known := (enters _ place).mpr ⟨other, held, same⟩
        rw [fresh] at known
        cases known
      · rfl
  · rename_i apart
    rw [enters key place]
    constructor
    · rintro ⟨other, held, same⟩
      exact ⟨other, .inl held, same⟩
    · rintro ⟨other, held | ⟨_, rfl⟩, same⟩
      · exact ⟨other, held, same⟩
      · simp [same] at apart

namespace RecordMeta

/-- The keys of the columns of a field list. -/
def columnKeys (fields : List FieldDef) : List String :=
  fields.map fun definition => Text.columnKey definition.column

/-- Fields that are entered to the end are all in the index. -/
theorem enters_of_enterColumns {typeName : String} {entered byColumn : ColumnIndex}
    {front fields : List FieldDef} (enters : entered.Enters front)
    (done : enterColumns typeName entered front.length fields = .ok byColumn) :
    byColumn.Enters (front ++ fields) := by
  induction fields generalizing entered front with
  | nil =>
      cases done
      simpa using enters
  | cons definition rest inductionHypothesis =>
      simp only [enterColumns] at done
      split at done
      · cases done
      · split at done
        · cases done
        · split at done
          · cases done
          · rename_i fresh
            have grown := enters.concat (Option.not_isSome_iff_eq_none.mp fresh)
            have later := inductionHypothesis grown (by simpa using done)
            simpa using later

/-- The index of metadata holds their fields. -/
theorem enters_byColumn (metadata : RecordMeta) : metadata.byColumn.Enters metadata.fields := by
  have indexed := metadata.indexed
  unfold index at indexed
  split at indexed
  · cases indexed
  · exact enters_of_enterColumns ColumnIndex.enters_nil indexed

/-- A name is looked up at an index exactly when the column there is equal to
it in any ASCII case. -/
theorem fieldIndex?_eq_some_iff {metadata : RecordMeta} {name : String} {index : Nat} :
    metadata.fieldIndex? name = some index ↔
      ∃ definition, metadata.fields[index]? = some definition ∧
        Text.sameColumn definition.column name = true := by
  simp only [Text.sameColumn_iff]
  exact metadata.enters_byColumn (Text.columnKey name) index

/-- Two fields of a record type that answer to the same name are one field. -/
theorem index_unique {metadata : RecordMeta} {first second : Nat}
    {one two : FieldDef} (held : metadata.fields[first]? = some one)
    (other : metadata.fields[second]? = some two)
    (same : Text.sameColumn one.column two.column = true) : first = second := by
  have here := fieldIndex?_eq_some_iff.mpr ⟨one, held, same⟩
  have there := fieldIndex?_eq_some_iff.mpr ⟨two, other, Text.sameColumn_self two.column⟩
  exact Option.some.inj (here.symm.trans there)

/-- No two columns of a record type are equal in any ASCII case. -/
theorem columnKeys_nodup (metadata : RecordMeta) :
    (columnKeys metadata.fields).Nodup := by
  rw [List.nodup_iff_getElem?_ne_getElem?]
  intro first second before inside same
  have within : second < metadata.fields.length := by simpa [columnKeys] using inside
  have held := List.getElem?_eq_getElem within
  have other := List.getElem?_eq_getElem (Nat.lt_trans before within)
  have keys : Text.columnKey metadata.fields[first].column =
      Text.columnKey metadata.fields[second].column := by
    simpa [columnKeys, held, other] using same
  exact Nat.ne_of_lt before (index_unique other held (Text.sameColumn_iff.mpr keys))

/-- The field that is found for a name is the one mapped to it in any ASCII case. -/
theorem field?_eq_some_iff {metadata : RecordMeta} {name : String} {definition : FieldDef} :
    metadata.field? name = some definition ↔
      definition ∈ metadata.fields ∧ Text.sameColumn definition.column name = true := by
  rw [field?, Option.bind_eq_some_iff]
  constructor
  · rintro ⟨index, mapped, held⟩
    obtain ⟨other, here, same⟩ := fieldIndex?_eq_some_iff.mp mapped
    obtain rfl : definition = other := Option.some.inj (held.symm.trans here)
    exact ⟨List.mem_of_getElem? held, same⟩
  · rintro ⟨member, same⟩
    obtain ⟨index, held⟩ := List.mem_iff_getElem?.mp member
    exact ⟨index, fieldIndex?_eq_some_iff.mpr ⟨definition, held, same⟩, held⟩

variable {α : Type} {metadata : RecordMeta} {name : String} {contents : List α}

/-- A field is looked up at its place among the fields with their contents. -/
theorem exists_index_of_mem_zip {field : FieldDef × α}
    (member : field ∈ metadata.fields.zip contents)
    (same : Text.sameColumn field.1.column name = true) :
    ∃ index, metadata.fieldIndex? name = some index ∧
      (metadata.fields.zip contents)[index]? = some field := by
  obtain ⟨index, paired⟩ := List.mem_iff_getElem?.mp member
  obtain ⟨defined, _⟩ := List.getElem?_zip_eq_some.mp paired
  exact ⟨index, fieldIndex?_eq_some_iff.mpr ⟨field.1, defined, same⟩, paired⟩

/-- Fields that answer to one name are one field, with one content. -/
theorem eq_of_mem_zip {field other : FieldDef × α}
    (member : field ∈ metadata.fields.zip contents)
    (present : other ∈ metadata.fields.zip contents)
    (same : Text.sameColumn field.1.column other.1.column = true) : field = other := by
  obtain ⟨index, mapped, held⟩ := exists_index_of_mem_zip member same
  obtain ⟨place, found, kept⟩ := exists_index_of_mem_zip present
    (Text.sameColumn_self other.1.column)
  obtain rfl : index = place := Option.some.inj (mapped.symm.trans found)
  exact Option.some.inj (held.symm.trans kept)

/-- With one content for each field, a lookup finds a field with its content. -/
theorem exists_zip_of_fieldIndex? {index : Nat}
    (width : contents.length = metadata.fields.length)
    (mapped : metadata.fieldIndex? name = some index) :
    ∃ field, (metadata.fields.zip contents)[index]? = some field ∧
      Text.sameColumn field.1.column name = true := by
  obtain ⟨definition, defined, same⟩ := fieldIndex?_eq_some_iff.mp mapped
  have inside : index < contents.length := by
    rw [width]
    exact (List.getElem?_eq_some_iff.mp defined).1
  exact ⟨(definition, contents[index]),
    List.getElem?_zip_eq_some.mpr ⟨defined, List.getElem?_eq_getElem inside⟩, same⟩

end RecordMeta

end RecordMapping
