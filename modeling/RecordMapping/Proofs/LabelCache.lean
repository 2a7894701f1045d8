/-
Module: RecordMapping.Proofs.LabelCache
Purpose: A scanner that keeps the slots of the labels it has seen answers as one that
  keeps nothing.
Main exports: Layout.bindRow, Layout.storeByPosition, Scanner.Coherent, ScanCall,
  ScanAnswer, Scanner.Faithful, Scanner.snd_scanInto_answers, label_cache_invisible
-/
import RecordMapping.Proofs.SelectionAgreement

namespace RecordMapping

/-!
A scanner looks at the labels of a row only where they differ from those it has
kept.  What it answers is compared with a binding that maps the labels of each row
anew.  The two agree because the slots that are kept are always those of the labels
that are kept, also behind a row that could not be mapped or stored.
-/

/-! ### Rows bound without a memory -/

namespace Layout

/-- A row stored in a target by the slots of its own labels. -/
def bindRow (layout : Layout) (typeName : String) (row : LabeledRow) (target : Target) :
    Target × Outcome Unit :=
  match layout.mapLabels typeName row.labels with
  | .error failure => (target, .error failure)
  | .ok slots => storeColumns typeName layout (row.labels.zip (slots.zip row.values)) target

/-- The values of a row stored one after another, from the position `index` on.  The
field of a slot is looked up before its value is stored, and the label of a column for
the failure of one; a lookup that finds nothing is out of range, and then there is no
result. -/
def storeByPosition (layout : Layout) (typeName : String) (labels : List String)
    (slots : List Slot) : Nat → List Value → Target → Option (Target × Outcome Unit)
  | _, [], target => some (target, .ok ())
  | index, value :: rest, target =>
      match slots[index]? with
      | some (some (part, field)) => do
          let (recordName, definition) ← layout.fieldAt? part field
          match target[part]? with
          | none => return (target, .error (.ofCause (.noPart typeName part)))
          | some record =>
              match record.set field value with
              | .ok stored =>
                  layout.storeByPosition typeName labels slots (index + 1) rest
                    (target.set part stored)
              | .error failure => do
                  let label ← labels[index]?
                  return (target, .error (failure.within
                    (.scanningColumn label definition.field recordName)))
      | _ => layout.storeByPosition typeName labels slots (index + 1) rest target

variable {layout : Layout} {typeName : String} {labels : List String} {slots : List Slot}

/-- Labels that can be mapped have one slot each. -/
theorem length_of_mapLabels (mapped : layout.mapLabels typeName labels = .ok slots) :
    slots.length = labels.length := by
  cases layout with
  | table metadata =>
      cases mapped
      simp
  | join parts =>
      by_cases counted : labels.length = width (.join parts)
      · simp only [mapLabels, counted, if_true, Except.ok.injEq] at mapped
        rw [← mapped, List.length_map, counted]
        exact length_slots (.join parts)
      · simp [mapLabels, counted] at mapped

/-- A slot that is assigned is a field of the layout. -/
theorem fieldAt?_of_mapLabels (mapped : layout.mapLabels typeName labels = .ok slots)
    {part field : Nat} (assigned : some (part, field) ∈ slots) :
    (layout.fieldAt? part field).isSome = true := by
  cases layout with
  | table metadata =>
      cases mapped
      obtain ⟨label, _, read⟩ := List.mem_map.mp assigned
      obtain ⟨index, found, same⟩ := Option.map_eq_some_iff.mp read
      obtain ⟨rfl, rfl⟩ := Prod.mk.inj same
      obtain ⟨definition, held, _⟩ := RecordMeta.fieldIndex?_eq_some_iff.mp found
      simp [fieldAt?, metadatas, held]
  | join parts =>
      by_cases counted : labels.length = width (.join parts)
      · simp only [mapLabels, counted, if_true, Except.ok.injEq] at mapped
        rw [← mapped] at assigned
        obtain ⟨slot, placed, same⟩ := List.mem_map.mp assigned
        obtain rfl := Option.some.inj same
        have position : (part, field) ∈ (Layout.join parts).slots := placed
        exact mem_slots.mp position
      · simp [mapLabels, counted] at mapped

/-- With the slots of its labels, no lookup for a row is out of range.  The induction is
on the values behind a position; a value without a label has no slot either, and is
passed over. -/
theorem storeByPosition_eq (mapped : layout.mapLabels typeName labels = .ok slots)
    (values : List Value) (index : Nat) (target : Target) :
    layout.storeByPosition typeName labels slots index values target =
      some (storeColumns typeName layout
        ((labels.drop index).zip ((slots.drop index).zip values)) target) := by
  induction values generalizing index target with
  | nil => simp [storeByPosition, storeColumns]
  | cons value rest inductionHypothesis =>
      have even := length_of_mapLabels mapped
      by_cases within : index < labels.length
      · have slotted : index < slots.length := by omega
        rw [List.drop_eq_getElem_cons within, List.drop_eq_getElem_cons slotted,
          List.zip_cons_cons, List.zip_cons_cons, storeByPosition,
          List.getElem?_eq_getElem slotted]
        cases assigned : slots[index] with
        | none => exact inductionHypothesis (index + 1) target
        | some place =>
            obtain ⟨part, field⟩ := place
            have member : some (part, field) ∈ slots := assigned ▸ List.getElem_mem slotted
            obtain ⟨⟨recordName, definition⟩, found⟩ :=
              Option.isSome_iff_exists.mp (fieldAt?_of_mapLabels mapped member)
            simp only [storeColumns, storeSlot, found, Option.bind_eq_bind, Option.bind_some]
            cases target[part]? with
            | none => rfl
            | some record =>
                dsimp only
                cases record.set field value with
                | ok stored => exact inductionHypothesis (index + 1) (target.set part stored)
                | error failure =>
                    simp only [List.getElem?_eq_getElem within, Option.bind_some]
                    rfl
      · have outside : labels.length ≤ index := Nat.le_of_not_lt within
        have unslotted : slots[index]? = none := by
          rw [List.getElem?_eq_none_iff]
          omega
        rw [storeByPosition, unslotted]
        have later := inductionHypothesis (index + 1) target
        rw [List.drop_eq_nil_of_le (by omega)] at later
        rw [List.drop_eq_nil_of_le outside]
        exact later

end Layout

/-! ### Scanners -/

namespace Scanner

variable {scanner : Scanner}

/-- A scanner whose slots, if it has seen labels, are those of the labels. -/
def Coherent (scanner : Scanner) : Prop :=
  ∀ labels, scanner.labels = some labels →
    scanner.layout.mapLabels scanner.type.typeName labels = .ok scanner.slots

theorem coherent_withLayout (type : TargetType) (layout : Layout) :
    (withLayout type layout).Coherent := by
  intro labels seen
  cases seen

/-- Whether or not the slots are kept, they are those of the labels. -/
theorem Coherent.adjusted_eq (coherent : scanner.Coherent) (labels : List String) :
    scanner.adjusted labels =
      (scanner.layout.mapLabels scanner.type.typeName labels).map fun slots =>
        { scanner with labels := some labels, slots := slots } := by
  unfold adjusted
  by_cases same : scanner.labels = some labels
  · rw [if_pos same, coherent labels same]
    simp [Except.map, ← same]
  · rw [if_neg same]

/-- The scanner behind a row with the given labels: adjusted to them, if they can be
mapped, and otherwise as it was. -/
def past (scanner : Scanner) (labels : List String) : Scanner :=
  match scanner.adjusted labels with
  | .ok adjusted => adjusted
  | .error _ => scanner

theorem fst_scanInto (scanner : Scanner) (row : LabeledRow) (target : Target) :
    (scanner.scanInto row target).1 = scanner.past row.labels := by
  unfold scanInto past
  cases scanner.adjusted row.labels with
  | error failure => rfl
  | ok adjusted => rfl

theorem scan_eq (scanner : Scanner) (row : LabeledRow) :
    scanner.scan row =
      ((scanner.scanInto row scanner.type.blank).1,
        (scanner.scanInto row scanner.type.blank).2.2.map fun _ =>
          (scanner.scanInto row scanner.type.blank).2.1) := by
  unfold scan
  cases scanner.scanInto row scanner.type.blank with
  | mk behind stored =>
      obtain ⟨target, outcome⟩ := stored
      cases outcome with
      | ok _ => rfl
      | error failure => rfl

theorem fst_scan (scanner : Scanner) (row : LabeledRow) :
    (scanner.scan row).1 = scanner.past row.labels := by
  rw [scan_eq, fst_scanInto]

/-- A row changes nothing of a scanner but what is kept of its labels, and keeps the
scanner coherent, whether or not the labels can be mapped. -/
theorem Coherent.past (coherent : scanner.Coherent) (labels : List String) :
    (scanner.past labels).Coherent ∧ (scanner.past labels).type = scanner.type ∧
      (scanner.past labels).layout = scanner.layout := by
  unfold Scanner.past
  rw [coherent.adjusted_eq]
  cases mapped : scanner.layout.mapLabels scanner.type.typeName labels with
  | error failure => exact ⟨coherent, rfl, rfl⟩
  | ok slots =>
      refine ⟨?_, rfl, rfl⟩
      intro seen same
      obtain rfl : labels = seen := Option.some.inj same
      exact mapped

/-- A coherent scanner stores a row as if it had never seen another one. -/
theorem Coherent.snd_scanInto (coherent : scanner.Coherent) (row : LabeledRow)
    (target : Target) :
    (scanner.scanInto row target).2 =
      scanner.layout.bindRow scanner.type.typeName row target := by
  unfold scanInto Layout.bindRow
  rw [coherent.adjusted_eq]
  cases scanner.layout.mapLabels scanner.type.typeName row.labels with
  | error failure => rfl
  | ok slots => rfl

/-- Once the slots fit the labels of a row, the row is stored by position without any
lookup that is out of range. -/
theorem Coherent.storeByPosition_eq (coherent : scanner.Coherent) {row : LabeledRow}
    {adjusted : Scanner} (fitted : scanner.adjusted row.labels = .ok adjusted)
    (target : Target) :
    scanner.layout.storeByPosition scanner.type.typeName row.labels adjusted.slots 0
        row.values target =
      some (scanner.scanInto row target).2 := by
  rw [coherent.snd_scanInto, Layout.bindRow]
  rw [coherent.adjusted_eq] at fitted
  cases mapped : scanner.layout.mapLabels scanner.type.typeName row.labels with
  | error failure =>
      rw [mapped] at fitted
      cases fitted
  | ok slots =>
      rw [mapped] at fitted
      cases fitted
      exact Layout.storeByPosition_eq mapped row.values 0 target

theorem Coherent.snd_scan (coherent : scanner.Coherent) (row : LabeledRow) :
    (scanner.scan row).2 =
      (scanner.layout.bindRow scanner.type.typeName row scanner.type.blank).2.map fun _ =>
        (scanner.layout.bindRow scanner.type.typeName row scanner.type.blank).1 := by
  rw [scan_eq, coherent.snd_scanInto]

end Scanner

/-! ### Histories -/

/-- A use of a scanner: a row as a new target, or a row stored in a given one. -/
inductive ScanCall where
  | scan (row : LabeledRow)
  | scanInto (row : LabeledRow) (target : Target)

/-- What a use of a scanner answers: the new target or why there is none, or what has
become of the given one and how storing it ended. -/
inductive ScanAnswer where
  | scanned (outcome : Outcome Target)
  | stored (target : Target) (outcome : Outcome Unit)

namespace Scanner

/-- One use of a scanner. -/
def answer (scanner : Scanner) : ScanCall → Scanner × ScanAnswer
  | .scan row =>
      match scanner.scan row with
      | (behind, outcome) => (behind, .scanned outcome)
  | .scanInto row target =>
      match scanner.scanInto row target with
      | (behind, stored, outcome) => (behind, .stored stored outcome)

/-- One use after another, each of the scanner that the use before has left. -/
def answers (scanner : Scanner) : List ScanCall → Scanner × List ScanAnswer
  | [] => (scanner, [])
  | call :: rest =>
      match scanner.answer call with
      | (behind, answer) =>
          match behind.answers rest with
          | (last, others) => (last, answer :: others)

/-- What holds of the memory of a scanner: what is kept of labels are their slots, one
for each label, and a slot that is assigned names a field that there is. -/
structure Faithful (scanner : Scanner) (type : TargetType) (layout : Layout) : Prop where
  sameType : scanner.type = type
  sameLayout : scanner.layout = layout
  mapped : ∀ labels, scanner.labels = some labels →
    layout.mapLabels type.typeName labels = .ok scanner.slots
  aligned : ∀ labels, scanner.labels = some labels → scanner.slots.length = labels.length
  inside : ∀ labels, scanner.labels = some labels →
    ∀ part field, some (part, field) ∈ scanner.slots →
      (layout.fieldAt? part field).isSome = true

variable {scanner : Scanner} {type : TargetType} {layout : Layout}

theorem Coherent.faithful (coherent : scanner.Coherent) (sameType : scanner.type = type)
    (sameLayout : scanner.layout = layout) : scanner.Faithful type layout := by
  subst sameType sameLayout
  refine ⟨rfl, rfl, coherent, ?_, ?_⟩
  · intro labels seen
    exact Layout.length_of_mapLabels (coherent labels seen)
  · intro labels seen part field assigned
    exact Layout.fieldAt?_of_mapLabels (coherent labels seen) assigned

/-- One use of a coherent scanner answers as a scanner that has seen no row, and leaves
a coherent one of the same type and layout. -/
theorem Coherent.answer (coherent : scanner.Coherent) (call : ScanCall) :
    (scanner.answer call).2 = ((withLayout scanner.type scanner.layout).answer call).2 ∧
      (scanner.answer call).1.Coherent ∧ (scanner.answer call).1.type = scanner.type ∧
      (scanner.answer call).1.layout = scanner.layout := by
  have fresh := coherent_withLayout scanner.type scanner.layout
  cases call with
  | scan row =>
      refine ⟨?_, ?_⟩
      · simp only [Scanner.answer, coherent.snd_scan, fresh.snd_scan]
        rfl
      · simp only [Scanner.answer, fst_scan]
        exact coherent.past row.labels
  | scanInto row target =>
      refine ⟨?_, ?_⟩
      · simp only [Scanner.answer, coherent.snd_scanInto, fresh.snd_scanInto]
        rfl
      · simp only [Scanner.answer, fst_scanInto]
        exact coherent.past row.labels

/-- Whole histories: the induction is on the uses, and what a use leaves is a coherent
scanner for those behind it. -/
theorem Coherent.answers (coherent : scanner.Coherent) (calls : List ScanCall) :
    (scanner.answers calls).2 =
        calls.map (fun call =>
          ((withLayout scanner.type scanner.layout).answer call).2) ∧
      (scanner.answers calls).1.Coherent ∧ (scanner.answers calls).1.type = scanner.type ∧
      (scanner.answers calls).1.layout = scanner.layout := by
  induction calls generalizing scanner with
  | nil => exact ⟨rfl, coherent, rfl, rfl⟩
  | cons call rest inductionHypothesis =>
      obtain ⟨same, behind, sameType, sameLayout⟩ := coherent.answer call
      obtain ⟨others, last, lastType, lastLayout⟩ := inductionHypothesis behind
      rw [sameType, sameLayout] at others
      refine ⟨?_, last, lastType.trans sameType, lastLayout.trans sameLayout⟩
      simp only [Scanner.answers, List.map_cons, same, others]

/-- Whatever a scanner has been used for, it binds a row by the labels of the row. -/
theorem snd_scanInto_answers (type : TargetType) (layout : Layout) (calls : List ScanCall)
    (row : LabeledRow) (target : Target) :
    (((withLayout type layout).answers calls).1.scanInto row target).2 =
      layout.bindRow type.typeName row target := by
  obtain ⟨_, coherent, sameType, sameLayout⟩ := (coherent_withLayout type layout).answers calls
  rw [coherent.snd_scanInto, sameType, sameLayout]
  rfl

end Scanner

/-- Whatever rows a scanner has been given before, and whether or not they could be
scanned, each use of it answers as the same use of a scanner that has seen no row.  What
it keeps is faithful to the labels it keeps, and with the slots that it has for the next
row, whatever that is, no label and no field is looked up out of range. -/
theorem label_cache_invisible (type : TargetType) (layout : Layout) (calls : List ScanCall) :
    let scanner := ((Scanner.withLayout type layout).answers calls).1
    ((Scanner.withLayout type layout).answers calls).2 =
        calls.map (fun call => ((Scanner.withLayout type layout).answer call).2) ∧
      scanner.Faithful type layout ∧
      ∀ row adjusted, scanner.adjusted row.labels = .ok adjusted → ∀ target,
        layout.storeByPosition type.typeName row.labels adjusted.slots 0 row.values target =
          some (scanner.scanInto row target).2 := by
  intro scanner
  obtain ⟨same, coherent, sameType, sameLayout⟩ :=
    (Scanner.coherent_withLayout type layout).answers calls
  refine ⟨same, coherent.faithful sameType sameLayout, fun row adjusted fitted target => ?_⟩
  have stored := coherent.storeByPosition_eq fitted target
  rw [sameType, sameLayout] at stored
  exact stored

end RecordMapping
