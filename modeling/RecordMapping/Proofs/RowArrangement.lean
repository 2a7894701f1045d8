/-
Module: RecordMapping.Proofs.RowArrangement
Purpose: A record is scanned alike from rows that differ in the order, the case and the
  company of its columns.
Main exports: RecordMeta.Foreign, RecordMeta.Rearranged, LabeledRow.ofColumns,
  scan_ignores_arrangement
-/
import RecordMapping.Proofs.RecordReading
import RecordMapping.Proofs.ScannedColumns

namespace RecordMapping

/-!
What a record receives from a row depends on the values for each of its fields alone.
Columns that come in another order bring the same values, in the order that is left among
those of one field; with labels that are distinct there is only one of them, and so the
order cannot be seen at all.
-/

/-- A label that no field is mapped to. -/
def RecordMeta.Foreign (metadata : RecordMeta) (label : String) : Prop :=
  ∀ definition ∈ metadata.fields, Text.sameColumn definition.column label = false

/-- Labelled values that a record type does not tell apart: they come in another order,
with labels in other cases, and with other values under labels that mean nothing to it. -/
inductive RecordMeta.Rearranged (metadata : RecordMeta) :
    List (String × Value) → List (String × Value) → Prop
  | shuffled {columns others : List (String × Value)} (same : columns.Perm others) :
      Rearranged metadata columns others
  | respelled {columns others : List (String × Value)}
      (same : List.Forall₂ (fun column other =>
        Text.sameColumn column.1 other.1 = true ∧ column.2 = other.2) columns others) :
      Rearranged metadata columns others
  | widened {columns : List (String × Value)} {label : String} {value : Value}
      (foreign : metadata.Foreign label) :
      Rearranged metadata columns ((label, value) :: columns)
  | narrowed {columns : List (String × Value)} {label : String} {value : Value}
      (foreign : metadata.Foreign label) :
      Rearranged metadata ((label, value) :: columns) columns
  | trans {columns between others : List (String × Value)}
      (first : Rearranged metadata columns between)
      (second : Rearranged metadata between others) : Rearranged metadata columns others

/-- The row of labelled values. -/
def LabeledRow.ofColumns (columns : List (String × Value)) : LabeledRow :=
  ⟨columns.map Prod.fst, columns.map Prod.snd⟩

namespace RecordMeta

variable {metadata : RecordMeta} {columns others : List (String × Value)} {label other : String}

theorem fieldIndex?_eq_none_iff : metadata.fieldIndex? label = none ↔ metadata.Foreign label := by
  simp only [Option.eq_none_iff_forall_ne_some, ne_eq, fieldIndex?_eq_some_iff, Foreign]
  constructor
  · intro unmapped definition member
    obtain ⟨index, held⟩ := List.mem_iff_getElem?.mp member
    exact Bool.eq_false_iff.mpr fun same => unmapped index ⟨definition, held, same⟩
  · rintro foreign index ⟨definition, held, same⟩
    rw [foreign definition (List.mem_of_getElem? held)] at same
    cases same

/-- Labels that differ in case only are those of one field. -/
theorem fieldIndex?_congr (same : Text.sameColumn label other = true) :
    metadata.fieldIndex? label = metadata.fieldIndex? other := by
  simp only [fieldIndex?, Text.sameColumn_iff.mp same]

/-- A rearrangement brings each field the same values. -/
theorem Rearranged.valuesFor_perm (rearranged : metadata.Rearranged columns others)
    (index : Nat) :
    (metadata.valuesFor columns index).Perm (metadata.valuesFor others index) := by
  induction rearranged with
  | shuffled same => exact same.filterMap _
  | respelled same =>
      refine List.Perm.of_eq ?_
      induction same with
      | nil => rfl
      | @cons column other _ _ alike _ inductionHypothesis =>
          obtain ⟨label, value⟩ := column
          obtain ⟨spelled, rfl⟩ := alike
          simp only [valuesFor, List.filterMap_cons, fieldIndex?_congr spelled] at *
          rw [inductionHypothesis]
  | widened foreign => simp [valuesFor, fieldIndex?_eq_none_iff.mpr foreign]
  | narrowed foreign => simp [valuesFor, fieldIndex?_eq_none_iff.mpr foreign]
  | trans _ _ front behind => exact front.trans behind

/-- Labels that are distinct in any case bring a field one value at most. -/
theorem length_valuesFor_le (distinct : (columns.map fun column => Text.columnKey column.1).Nodup)
    (index : Nat) : (metadata.valuesFor columns index).length ≤ 1 := by
  induction columns with
  | nil => simp [valuesFor]
  | cons column rest inductionHypothesis =>
      obtain ⟨fresh, apart⟩ := List.nodup_cons.mp distinct
      by_cases mapped : metadata.fieldIndex? column.1 = some index
      · have alone : metadata.valuesFor rest index = [] := by
          refine List.filterMap_eq_nil_iff.mpr fun other member => if_neg fun again => ?_
          obtain ⟨definition, held, same⟩ := fieldIndex?_eq_some_iff.mp mapped
          obtain ⟨_, here, alike⟩ := fieldIndex?_eq_some_iff.mp again
          obtain rfl := Option.some.inj (held.symm.trans here)
          refine fresh (List.mem_map.mpr ⟨other, member, ?_⟩)
          rw [← Text.sameColumn_iff.mp alike, Text.sameColumn_iff.mp same]
        have one : metadata.valuesFor (column :: rest) index =
            column.2 :: metadata.valuesFor rest index := by
          simp [valuesFor, mapped]
        simp [one, alone]
      · have none : metadata.valuesFor (column :: rest) index =
            metadata.valuesFor rest index := by
          simp [valuesFor, mapped]
        rw [none]
        exact inductionHypothesis apart

/-- With distinct labels, a rearrangement brings each field the very same values. -/
theorem Rearranged.valuesFor_eq
    (distinct : (columns.map fun column => Text.columnKey column.1).Nodup)
    (rearranged : metadata.Rearranged columns others) (index : Nat) :
    metadata.valuesFor columns index = metadata.valuesFor others index := by
  have few : (metadata.valuesFor columns index).length ≤ 1 := length_valuesFor_le distinct index
  have shuffled := rearranged.valuesFor_perm index
  rcases Nat.le_one_iff_eq_zero_or_eq_one.mp few with none | one
  · rw [List.length_eq_zero_iff.mp none] at shuffled ⊢
    exact (List.nil_perm.mp shuffled).symm
  · obtain ⟨value, only⟩ := List.length_eq_one_iff.mp one
    rw [only] at shuffled ⊢
    exact List.singleton_perm.mp shuffled

/-- The places of a single record receive the values of its fields. -/
theorem valuesAt_slotted (place : Place) :
    valuesAt (metadata.slotted columns) place =
      if place.1 = 0 then metadata.valuesFor columns place.2 else [] := by
  obtain ⟨part, index⟩ := place
  have assigned : ∀ label, metadata.slot label = some (part, index) ↔
      part = 0 ∧ metadata.fieldIndex? label = some index := by
    intro label
    simp only [slot, Option.map_eq_some_iff, Prod.mk.injEq]
    constructor
    · rintro ⟨_, mapped, rfl, rfl⟩
      exact ⟨rfl, mapped⟩
    · rintro ⟨rfl, mapped⟩
      exact ⟨index, mapped, rfl, rfl⟩
  by_cases single : part = 0
  · subst single
    simp [valuesAt, slotted, valuesFor, assigned]
  · simp [valuesAt, slotted, assigned, single]

end RecordMeta

/-- A row of labelled values is stored in a record by the fields of its labels. -/
theorem bindRow_ofColumns (metadata : RecordMeta) (typeName : String)
    (columns : List (String × Value)) (target : Target) :
    (Layout.table metadata).bindRow typeName (.ofColumns columns) target =
      storeColumns typeName (.table metadata) (metadata.slotted columns) target := by
  have mapped : (Layout.table metadata).mapLabels typeName (columns.map Prod.fst) =
      .ok ((columns.map Prod.fst).map metadata.slot) := rfl
  simp only [Layout.bindRow, LabeledRow.ofColumns, mapped, zip_slotted]

/-- Rows whose labels are distinct in any case and that are rearrangements of one another
are scanned alike: one can be stored in a target if the other can, and leaves the same.
Neither the rows that the two scanners have been given before nor what the target holds
makes a difference. -/
theorem scan_ignores_arrangement (metadata : RecordMeta) (type : TargetType)
    {columns others : List (String × Value)}
    (distinct : (columns.map fun column => Text.columnKey column.1).Nodup)
    (rearranged : metadata.Rearranged columns others) (earlier later : List ScanCall)
    (target stored : Target) :
    let fresh := Scanner.withLayout type (.table metadata)
    ((fresh.answers earlier).1.scanInto (.ofColumns columns) target).2 = (stored, .ok ()) ↔
      ((fresh.answers later).1.scanInto (.ofColumns others) target).2 = (stored, .ok ()) := by
  intro fresh
  rw [Scanner.snd_scanInto_answers, Scanner.snd_scanInto_answers, bindRow_ofColumns,
    bindRow_ofColumns, storeColumns_eq_ok_iff, storeColumns_eq_ok_iff]
  apply receives_congr
  intro place
  rw [RecordMeta.valuesAt_slotted, RecordMeta.valuesAt_slotted,
    rearranged.valuesFor_eq distinct place.2]

/-- A user whose number comes as text among other columns, and again without the others, in
capitals and from the last field to the first: the target is the same. -/
theorem scan_ignores_arrangement_reversed :
    let metadata : RecordMeta :=
      ⟨Conformance.user.typeName, Conformance.user.definitions, _, rfl⟩
    let columns : List (String × Value) :=
      [("id", .ofText "7"), ("posts", .ofInt .int64 3), ("name", .ofText "Bia"),
        ("age", .ofInt .int64 40), ("address", .null)]
    let others : List (String × Value) :=
      [("ADDRESS", .null), ("AGE", .ofInt .int64 40), ("NAME", .ofText "Bia"), ("ID", .ofText "7")]
    let known : Record :=
      ⟨Conformance.user, [.value (.ofInt .uint64 1), .value (.ofText "Ana"),
        .value (.ofInt .int32 20), Conformance.addressIn "BR"], []⟩
    let changed : Record :=
      ⟨Conformance.user, [.value (.ofInt .uint64 7), .value (.ofText "Bia"),
        .value (.ofInt .int32 40), Conformance.addressIn "BR"], []⟩
    Conformance.user.metadata = .ok metadata ∧
      (columns.map fun column => Text.columnKey column.1).Nodup ∧
      metadata.Rearranged columns others ∧
      ((Scanner.withLayout Conformance.users (.table metadata)).scanInto (.ofColumns others)
        [known]).2 = ([changed], .ok ()) := by
  intro metadata columns others known changed
  have distinct : (columns.map fun column => Text.columnKey column.1).Nodup := by decide
  let lowered : List (String × Value) :=
    [("address", .null), ("age", .ofInt .int64 40), ("name", .ofText "Bia"), ("id", .ofText "7")]
  have foreign : metadata.Foreign "posts" := by
    unfold RecordMeta.Foreign
    decide
  have shuffled : columns.Perm (("posts", .ofInt .int64 3) :: lowered) := by decide
  have respelled : metadata.Rearranged lowered others :=
    .respelled (.cons (by decide) (.cons (by decide) (.cons (by decide) (.cons (by decide) .nil))))
  have rearranged : metadata.Rearranged columns others :=
    .trans (.shuffled shuffled) (.trans (.narrowed foreign) respelled)
  have first : ((Scanner.withLayout Conformance.users (.table metadata)).scanInto
      (.ofColumns columns) [known]).2 = ([changed], .ok ()) := rfl
  have again := scan_ignores_arrangement metadata Conformance.users distinct rearranged [] []
    [known] [changed]
  exact ⟨rfl, distinct, rearranged, again.mp first⟩

end RecordMapping
