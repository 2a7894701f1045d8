/-
Module: RecordMapping.Proofs.ScanPrefixes
Purpose: What a row leaves in a target, whether all of its columns can be stored or not.
Main exports: Scanner.wellTyped_scanInto, Scanner.wellTyped_scan, FieldContent.Leaves,
  Target.LeftBy, Target.Refuses, LabeledRow.columns, LabeledRow.Scanned, scan_stops_cleanly
-/
import RecordMapping.Proofs.FailureKinds
import RecordMapping.Proofs.RecordReading
import RecordMapping.Proofs.ScannedColumns

namespace RecordMapping

/-!
A scan ends at the first column that cannot be stored.  What it has done by then is what it
would have done for a row that ends in front of this column: a value that is refused changes
nothing, and no column behind it is looked at.
-/

/-! ### Well-typed targets -/

/-- What is stored in a field of documents is the document that a value carries; a `NULL`
leaves what was there before. -/
theorem FieldContent.store_json_eq_ok_iff {shape : Json.Shape} {present cell : Cell}
    {value : Value} :
    (FieldContent.json shape).store present value = .ok cell ↔
      (value.isNull = true ∧ cell = present) ∨
        (value.isNull = false ∧ ∃ bytes document, value.bytes? = some bytes ∧
          shape.read bytes = some document ∧ cell = .document document) := by
  have decoded : ∀ {earlier : Json.Document}, value.isNull = false →
      ((decodeJson shape earlier value).map Cell.document = .ok cell ↔
        ∃ bytes document, value.bytes? = some bytes ∧
          shape.read bytes = some document ∧ cell = .document document) := by
    intro earlier filled
    simp only [decodeJson, filled, Bool.false_eq_true, if_false]
    cases value.bytes? with
    | none => simp [Except.map]
    | some bytes =>
        cases read : shape.read bytes with
        | none => simp [read, Except.map]
        | some document => simp [read, Except.map, eq_comm]
  cases null : value.isNull with
  | true => cases present <;> simp [store, decodeJson, null, Except.map, eq_comm]
  | false => cases present <;> simp [store, null, decoded null]

/-- What is stored in a field that holds a cell of its own is another such cell. -/
theorem FieldContent.holds_of_store {content : FieldContent} {present cell : Cell}
    {value : Value} (holds : content.Holds present)
    (stores : content.store present value = .ok cell) : content.Holds cell := by
  cases content with
  | scalar column =>
      obtain ⟨stored, converts, rfl⟩ := Outcome.map_eq_ok_iff.mp stores
      unfold ColumnType.convert at converts
      split at converts
      · rename_i empty
        cases converts
        exact .value (.null (Bool.and_eq_true_iff.mp empty).1)
      · obtain ⟨inner, _, rfl⟩ := Outcome.map_eq_ok_iff.mp converts
        exact .value (.content inner)
  | json shape =>
      rcases store_json_eq_ok_iff.mp stores with ⟨_, rfl⟩ | ⟨_, _, document, _, _, rfl⟩
      · exact holds
      · exact .document shape document

theorem FieldContent.holds_blank (content : FieldContent) : content.Holds content.blank := by
  cases content with
  | scalar column =>
      refine .value ?_
      unfold ColumnType.blank
      split
      · rename_i optional
        exact .null optional
      · exact .content _
  | json shape => exact .document shape _

theorem Record.wellTyped_blank (type : RecordType) : (blank type).WellTyped := by
  unfold WellTyped blank
  rw [List.forall₂_map_right_iff, List.forall₂_same]
  exact fun field _ => field.content.holds_blank

theorem Record.WellTyped.set {record stored : Record} {index : Nat} {value : Value}
    (typed : record.WellTyped) (success : record.set index value = .ok stored) :
    stored.WellTyped := by
  obtain ⟨field, present, cell, defined, held, stores, rfl⟩ := set_eq_ok_iff.mp success
  obtain ⟨even, holds⟩ := List.forall₂_iff_get.mp typed
  refine List.forall₂_iff_get.mpr ⟨by simpa using even, fun position inFields inCells => ?_⟩
  by_cases same : index = position
  · subst same
    obtain ⟨_, rfl⟩ := List.getElem?_eq_some_iff.mp defined
    obtain ⟨_, rfl⟩ := List.getElem?_eq_some_iff.mp held
    simpa using FieldContent.holds_of_store (holds index _ _) stores
  · have inRecord : position < record.cells.length := by simpa using inCells
    simpa [List.getElem_set_ne same] using holds position inFields inRecord

theorem wellTyped_storeSlot {typeName label : String} {layout : Layout} {part index : Nat}
    {value : Value} {target stored : Target} (typed : ∀ record ∈ target, record.WellTyped)
    (stores : storeSlot typeName layout label part index value target = .ok stored) :
    ∀ record ∈ stored, record.WellTyped := by
  unfold storeSlot at stores
  split at stores
  · cases stores
  · rename_i record here
    split at stores
    · rename_i changed set
      cases stores
      intro other member
      rcases List.mem_or_eq_of_mem_set member with kept | rfl
      · exact typed other kept
      · exact (typed record (List.mem_of_getElem? here)).set set
    · split at stores
      · cases stores
      · cases stores

theorem wellTyped_storeColumns {typeName : String} {layout : Layout}
    {columns : List (String × Slot × Value)} {target : Target}
    (typed : ∀ record ∈ target, record.WellTyped) :
    ∀ record ∈ (storeColumns typeName layout columns target).1, record.WellTyped := by
  induction columns generalizing target with
  | nil => exact typed
  | cons column rest inductionHypothesis =>
      obtain ⟨label, slot, value⟩ := column
      cases slot with
      | none => exact inductionHypothesis typed
      | some place =>
          unfold storeColumns
          split
          · rename_i stored first
            exact inductionHypothesis (wellTyped_storeSlot typed first)
          · exact typed

/-- A target whose records are well-typed, as those of a new target are, is left so by
every row, whether or not all of its columns can be stored. -/
theorem Scanner.wellTyped_scanInto (scanner : Scanner) (row : LabeledRow) {target : Target}
    (typed : ∀ record ∈ target, record.WellTyped) :
    ∀ record ∈ (scanner.scanInto row target).2.1, record.WellTyped := by
  unfold scanInto
  split
  · exact typed
  · exact wellTyped_storeColumns typed

/-- The records that a scanner makes of rows are well-typed. -/
theorem Scanner.wellTyped_scan {scanner : Scanner} {type : RecordType}
    (plain : scanner.type = .ofRecord type) (row : LabeledRow) {target : Target}
    (scanned : (scanner.scan row).2 = .ok target) :
    ∀ record ∈ target, record.WellTyped := by
  have new : ∀ record ∈ scanner.type.blank, record.WellTyped := by
    simpa [plain, TargetType.ofRecord] using Record.wellTyped_blank type
  have kept := scanner.wellTyped_scanInto row new
  unfold scan at scanned
  split at scanned
  · rename_i left stored stores
    cases scanned
    simpa only [stores] using kept
  · cases scanned

/-! ### What values leave in a field -/

/-- What is left in a field by values that were stored there one after another.  It is the
last of them, converted.  In a field of documents it is the document of the last that is
not `NULL`, and what was there before if all of them are. -/
inductive FieldContent.Leaves : FieldContent → Cell → List Value → Cell → Prop
  | converted {column : ColumnType} {present : Cell} {front : List Value} {value : Value}
      {content : Value} (converts : column.convert value = .ok content) :
      Leaves (.scalar column) present (front ++ [value]) (.value content)
  | decoded {shape : Json.Shape} {present : Cell} {front nulls : List Value} {value : Value}
      {bytes : List UInt8} {document : Json.Document} (filled : value.isNull = false)
      (carries : value.bytes? = some bytes) (reads : shape.read bytes = some document)
      (empty : ∀ later ∈ nulls, later.isNull = true) :
      Leaves (.json shape) present (front ++ value :: nulls) (.document document)
  | kept {shape : Json.Shape} {present : Cell} {nulls : List Value}
      (empty : ∀ value ∈ nulls, value.isNull = true) :
      Leaves (.json shape) present nulls present

namespace FieldContent

variable {content : FieldContent} {column : ColumnType} {shape : Json.Shape}
  {present cell : Cell} {values : List Value}

theorem leaves_of_storeAll_scalar (received : values ≠ [])
    (stores : storeAll (.scalar column) present values = .ok cell) :
    Leaves (.scalar column) present values cell := by
  induction values generalizing present with
  | nil => exact absurd rfl received
  | cons value rest inductionHypothesis =>
      obtain ⟨between, first, behind⟩ := ok_of_bind (Target.storeAll_cons.symm.trans stores)
      obtain ⟨content, converts, rfl⟩ := Outcome.map_eq_ok_iff.mp first
      by_cases last : rest = []
      · subst last
        cases behind
        exact @Leaves.converted _ _ [] _ _ converts
      · cases inductionHypothesis last behind with
        | @converted _ _ front _ _ converts =>
            exact @Leaves.converted _ _ (value :: front) _ _ converts

/-- The induction is on the values.  What the first of them leaves is what was there before
for the others, and shows in the end only if all of these are `NULL`. -/
theorem leaves_of_storeAll_json (stores : storeAll (.json shape) present values = .ok cell) :
    Leaves (.json shape) present values cell := by
  induction values generalizing present with
  | nil =>
      cases stores
      exact .kept (by simp)
  | cons value rest inductionHypothesis =>
      obtain ⟨between, first, behind⟩ := ok_of_bind (Target.storeAll_cons.symm.trans stores)
      cases inductionHypothesis behind with
      | @decoded _ _ front _ _ _ _ filled carries reads empty =>
          exact @Leaves.decoded _ _ (value :: front) _ _ _ _ filled carries reads empty
      | kept empty =>
          rcases store_json_eq_ok_iff.mp first with
            ⟨null, rfl⟩ | ⟨filled, _, _, carries, reads, rfl⟩
          · exact .kept (List.forall_mem_cons.mpr ⟨null, empty⟩)
          · exact @Leaves.decoded _ _ [] _ _ _ _ filled carries reads empty

theorem leaves_of_storeAll (received : values ≠ [])
    (stores : content.storeAll present values = .ok cell) :
    content.Leaves present values cell := by
  cases content with
  | scalar _ => exact leaves_of_storeAll_scalar received stores
  | json _ => exact leaves_of_storeAll_json stores

end FieldContent

/-! ### What columns leave in a target -/

namespace Target

variable {target left : Target} {columns : List (String × Slot × Value)} {place : Place}
  {content : FieldContent} {present : Cell}

/-- A target is left by columns with its types and its fields without a column, with what the
values of its columns leave in a field that has columns, and in any other place as it was. -/
structure LeftBy (target : Target) (columns : List (String × Slot × Value))
    (left : Target) : Prop where
  frames : left.map Record.frame = target.map Record.frame
  mapped : ∀ place, valuesAt columns place ≠ [] → ∃ content present cell,
    target.content? place = some content ∧ target.cell? place = some present ∧
      left.cell? place = some cell ∧ content.Leaves present (valuesAt columns place) cell
  others : ∀ place, valuesAt columns place = [] → left.cell? place = target.cell? place

theorem Receives.leftBy (receives : target.Receives columns left) :
    target.LeftBy columns left := by
  refine ⟨receives.frames, fun place received => ?_, fun place none => ?_⟩
  · have settles := receives.cells place
    generalize valuesAt columns place = values at settles received
    generalize reached : left.cell? place = final at settles
    cases settles with
    | untouched => exact absurd rfl received
    | @stored content present cell _ defined held stores =>
        exact ⟨content, present, cell, defined, held, rfl,
          FieldContent.leaves_of_storeAll received stores⟩
  · have settles := receives.cells place
    rw [none] at settles
    exact settles_nil_iff.mp settles

/-- Why a column cannot be stored at a place: the target does not have the part, or the
field of the part refuses the value.  The failure names the column, the field and its record
then, and has the reason inside. -/
inductive Refuses (type : TargetType) (layout : Layout) (target : Target) (label : String)
    (place : Place) (value : Value) : Failure → Prop
  | part (missing : target[place.1]? = none) :
      Refuses type layout target label place value (.ofCause (.noPart type.typeName place.1))
  | field {record : Record} {recordName : String} {definition : FieldDef} {reason : Failure}
      (held : target[place.1]? = some record)
      (named : layout.fieldAt? place.1 place.2 = some (recordName, definition))
      (refused : record.set place.2 value = .error reason) :
      Refuses type layout target label place value
        (reason.within (.scanningColumn label definition.field recordName))

end Target

section Refused

variable {typeName label : String} {type : TargetType} {layout : Layout} {place : Place}
  {value : Value} {columns : List (String × Slot × Value)} {target left : Target}
  {failure : Failure}

theorem refuses_of_storeSlot (assigned : (layout.fieldAt? place.1 place.2).isSome = true)
    (fails : storeSlot type.typeName layout label place.1 place.2 value target = .error failure) :
    target.Refuses type layout label place value failure := by
  obtain ⟨⟨recordName, definition⟩, named⟩ := Option.isSome_iff_exists.mp assigned
  unfold storeSlot at fails
  cases held : target[place.1]? with
  | none =>
      simp only [held, Except.error.injEq] at fails
      exact fails ▸ .part held
  | some record =>
      cases set : record.set place.2 value with
      | ok stored => simp [held, set] at fails
      | error reason =>
          simp only [held, set, named, Except.error.injEq] at fails
          exact fails ▸ .field held named set

/-- A failure comes from one column, behind those that have been stored. -/
theorem storeColumns_eq_error
    (fails : storeColumns typeName layout columns target = (left, .error failure)) :
    ∃ front label place value rest, columns = front ++ (label, some place, value) :: rest ∧
      storeColumns typeName layout front target = (left, .ok ()) ∧
      storeSlot typeName layout label place.1 place.2 value left = .error failure := by
  induction columns generalizing target with
  | nil => cases fails
  | cons column rest inductionHypothesis =>
      obtain ⟨label, slot, value⟩ := column
      cases slot with
      | none =>
          obtain ⟨front, refusedLabel, place, refusedValue, behind, split, stores, refused⟩ :=
            inductionHypothesis fails
          exact ⟨(label, none, value) :: front, refusedLabel, place, refusedValue, behind,
            congrArg _ split, stores, refused⟩
      | some place =>
          obtain ⟨part, index⟩ := place
          cases first : storeSlot typeName layout label part index value target with
          | ok between =>
              simp only [storeColumns, first] at fails
              obtain ⟨front, refusedLabel, place, refusedValue, behind, split, stores, refused⟩ :=
                inductionHypothesis fails
              refine ⟨(label, some (part, index), value) :: front, refusedLabel, place,
                refusedValue, behind, congrArg _ split, ?_, refused⟩
              simpa only [storeColumns, first] using stores
          | error reason =>
              simp only [storeColumns, first, Prod.mk.injEq, Except.error.injEq] at fails
              obtain ⟨rfl, rfl⟩ := fails
              exact ⟨[], label, (part, index), value, rest, rfl, rfl, first⟩

end Refused

/-! ### Rows -/

theorem zip_take {α β : Type} (first : List α) (second : List β) (count : Nat) :
    first.zip (second.take count) = (first.zip second).take count := by
  induction count generalizing first second with
  | zero => simp
  | succ count inductionHypothesis => cases first <;> cases second <;> simp [inductionHypothesis]

namespace LabeledRow

/-- The columns of a row, with slots for its labels. -/
def columns (row : LabeledRow) (slots : List Slot) : List (String × Slot × Value) :=
  row.labels.zip (slots.zip row.values)

/-- The row that ends in front of the column at an index. -/
def before (row : LabeledRow) (index : Nat) : LabeledRow :=
  { row with values := row.values.take index }

/-- What comes of scanning a row whose labels have the given slots into a target.  Either
all of its columns have been stored, or those in front of one that the target refuses, and
the target is left just as the row that ends there leaves it. -/
inductive Scanned (type : TargetType) (layout : Layout)
    (scan : LabeledRow → Target → Target × Outcome Unit) (row : LabeledRow) (slots : List Slot)
    (target : Target) : Target × Outcome Unit → Prop
  | whole {left : Target} (all : target.LeftBy (row.columns slots) left) :
      Scanned type layout scan row slots target (left, .ok ())
  | upTo {index : Nat} {label : String} {place : Place} {value : Value} {left : Target}
      {failure : Failure} (labelled : row.labels[index]? = some label)
      (mapped : slots[index]? = some (some place)) (carried : row.values[index]? = some value)
      (front : target.LeftBy ((row.columns slots).take index) left)
      (same : scan (row.before index) target = (left, .ok ()))
      (refused : left.Refuses type layout label place value failure) :
      Scanned type layout scan row slots target (left, .error failure)

theorem columns_before (row : LabeledRow) (slots : List Slot) (index : Nat) :
    (row.before index).columns slots = (row.columns slots).take index := by
  simp only [columns, before, zip_take]

end LabeledRow

section Rows

variable {type : TargetType} {layout : Layout} {row : LabeledRow} {slots : List Slot}

theorem bindRow_eq_storeColumns (mapped : layout.mapLabels type.typeName row.labels = .ok slots)
    (target : Target) : layout.bindRow type.typeName row target =
      storeColumns type.typeName layout (row.columns slots) target := by
  simp only [Layout.bindRow, mapped, LabeledRow.columns]

/-- The row in front of a column is stored by the same slots. -/
theorem bindRow_before (mapped : layout.mapLabels type.typeName row.labels = .ok slots)
    (index : Nat) (target : Target) : layout.bindRow type.typeName (row.before index) target =
      storeColumns type.typeName layout ((row.columns slots).take index) target := by
  have kept : layout.mapLabels type.typeName (row.before index).labels = .ok slots := mapped
  rw [bindRow_eq_storeColumns kept, LabeledRow.columns_before]

theorem scanned_bindRow (mapped : layout.mapLabels type.typeName row.labels = .ok slots)
    {target : Target} :
    row.Scanned type layout (layout.bindRow type.typeName) slots target
      (layout.bindRow type.typeName row target) := by
  rw [bindRow_eq_storeColumns mapped]
  cases ends : storeColumns type.typeName layout (row.columns slots) target with
  | mk left outcome =>
      cases outcome with
      | ok _ => exact .whole ((storeColumns_eq_ok_iff.mp ends).leftBy)
      | error failure =>
          obtain ⟨front, label, place, value, rest, split, stores, refused⟩ :=
            storeColumns_eq_error ends
          have first : (row.columns slots).take front.length = front := by
            rw [split, List.take_left']
            rfl
          have here : (row.columns slots)[front.length]? = some (label, some place, value) := by
            rw [split, List.getElem?_append_right (Nat.le_refl _), Nat.sub_self]
            rfl
          obtain ⟨labelled, slotted⟩ := List.getElem?_zip_eq_some.mp here
          obtain ⟨assigned, carried⟩ := List.getElem?_zip_eq_some.mp slotted
          have inLayout := Layout.fieldAt?_of_mapLabels mapped (List.mem_of_getElem? assigned)
          refine .upTo labelled assigned carried ?_ ?_ (refuses_of_storeSlot inLayout refused)
          · rw [first]
            exact (storeColumns_eq_ok_iff.mp stores).leftBy
          · rw [bindRow_before mapped, first]
            exact stores

end Rows

/-- A row whose labels have slots is scanned as a whole, or up to the first column that its
target refuses: this column and those behind it have left nothing, and the failure names
it.  A row of joined records with a wrong number of labels leaves the target as it was.  It
makes no difference which rows the scanner has been given before. -/
theorem scan_stops_cleanly (type : TargetType) (layout : Layout) (calls : List ScanCall)
    (row : LabeledRow) (target : Target) :
    let scanner := ((Scanner.withLayout type layout).answers calls).1
    (∀ slots, layout.mapLabels type.typeName row.labels = .ok slots →
      row.Scanned type layout (fun row target => (scanner.scanInto row target).2) slots target
        (scanner.scanInto row target).2) ∧
      ∀ parts, layout = .join parts → row.labels.length ≠ layout.width →
        (scanner.scanInto row target).2 =
          (target, .error (.ofCause
            (.columnCount type.typeName layout.width row.labels.length))) := by
  intro scanner
  have binds : (fun row target => (scanner.scanInto row target).2) =
      layout.bindRow type.typeName := by
    funext row target
    exact Scanner.snd_scanInto_answers type layout calls row target
  have here : (scanner.scanInto row target).2 = layout.bindRow type.typeName row target :=
    Scanner.snd_scanInto_answers type layout calls row target
  refine ⟨fun slots mapped => ?_, ?_⟩
  · rw [binds, here]
    exact scanned_bindRow mapped
  · rintro parts rfl uncounted
    rw [here]
    simp only [Layout.bindRow, Layout.mapLabels, if_neg uncounted]

/-- A new user whose age is not a number.  The second of two names has been stored, the
number behind the age has not, and a row that ends in front of the age leaves the same
user. -/
theorem scan_stops_cleanly_bad_age :
    let metadata : RecordMeta :=
      ⟨Conformance.user.typeName, Conformance.user.definitions, _, rfl⟩
    let scan := fun row target =>
      ((Scanner.withLayout Conformance.users (.table metadata)).scanInto row target).2
    let row : LabeledRow :=
      ⟨["name", "posts", "NAME", "age", "id"],
        [.ofText "Ana", .ofInt .int64 3, .ofText "Bia", .ofText "old", .ofInt .int64 9]⟩
    let named : Target := [Conformance.userNamed "Bia"]
    ∃ failure, scan row Conformance.users.blank = (named, .error failure) ∧
      ∃ index label place value, row.labels[index]? = some label ∧
        row.values[index]? = some value ∧
        scan (row.before index) Conformance.users.blank = (named, .ok ()) ∧
        named.Refuses Conformance.users (.table metadata) label place value failure := by
  intro metadata scan row named
  have verdict := (scan_stops_cleanly Conformance.users (.table metadata) [] row
    Conformance.users.blank).1 _ rfl
  obtain ⟨failure, ends⟩ : ∃ failure,
      scan row Conformance.users.blank = (named, .error failure) := ⟨_, rfl⟩
  change row.Scanned _ _ scan _ _ (scan row Conformance.users.blank) at verdict
  rw [ends] at verdict
  cases verdict with
  | upTo labelled _ carried _ same refused =>
      exact ⟨failure, ends, _, _, _, _, labelled, carried, same, refused⟩

end RecordMapping
