/-
Module: RecordMapping.Proofs.ScannedColumns
Purpose: What the columns of a row leave in the places of a target.
Main exports: Place, Target.content?, Target.cell?, valuesAt, Target.Settles,
  Target.Receives, storeColumns_eq_ok_iff
-/
import Mathlib.Data.List.Basic
import RecordMapping.Proofs.StoredColumns

namespace RecordMapping

/-!
Columns are stored one after another, and each of them either finds its field or ends the
scan.  Seen from the target, nothing is left of the order in which columns of different
fields come: a place holds what the values of its own columns make of it.  That this is
all there is to a scan that succeeds is what makes two scans comparable.
-/

/-- A field of a target: the index of its part, and its own index there. -/
abbrev Place := Nat × Nat

/-- The values of the columns that are assigned to a place, in their order. -/
def valuesAt (columns : List (String × Slot × Value)) (place : Place) : List Value :=
  columns.filterMap fun (_, slot, value) => if slot = some place then some value else none

namespace Target

/-- What the field at a place can hold. -/
def content? (target : Target) (place : Place) : Option FieldContent :=
  target[place.1]?.bind fun record => (record.type.fields[place.2]?).map (·.content)

/-- What the field at a place holds. -/
def cell? (target : Target) (place : Place) : Option Cell :=
  target[place.1]?.bind (·.cells[place.2]?)

/-- The target with another cell at a place. -/
def put (target : Target) (place : Place) (cell : Cell) : Target :=
  target.modify place.1 fun record => { record with cells := record.cells.set place.2 cell }

/-- What a place holds once values have been stored there one after another: what the last
of them has left, or without any what it has held before. -/
inductive Settles (target : Target) (place : Place) : List Value → Option Cell → Prop
  | untouched : Settles target place [] (target.cell? place)
  | stored {content : FieldContent} {present cell : Cell} {values : List Value}
      (defined : target.content? place = some content)
      (held : target.cell? place = some present)
      (stores : content.storeAll present values = .ok cell) :
      Settles target place values (some cell)

/-- A target keeps its types and its fields without a column, and each place receives the
values of its columns. -/
structure Receives (target : Target) (columns : List (String × Slot × Value))
    (stored : Target) : Prop where
  frames : stored.map Record.frame = target.map Record.frame
  cells : ∀ place, target.Settles place (valuesAt columns place) (stored.cell? place)

variable {target : Target} {place other : Place} {present cell : Cell} {final : Option Cell}
  {content : FieldContent} {value : Value} {values : List Value}

/-! ### Places -/

theorem cell?_put_self (held : target.cell? place = some present) :
    (target.put place cell).cell? place = some cell := by
  obtain ⟨record, here, kept⟩ := Option.bind_eq_some_iff.mp held
  have inside : place.2 < record.cells.length := (List.getElem?_eq_some_iff.mp kept).1
  simp [cell?, put, here, inside]

theorem cell?_put_ne (apart : other ≠ place) :
    (target.put place cell).cell? other = target.cell? other := by
  simp only [cell?, put, List.getElem?_modify]
  by_cases same : place.1 = other.1
  · have elsewhere : place.2 ≠ other.2 := fun equal => apart (Prod.ext same equal).symm
    cases target[other.1]? with
    | none => rfl
    | some record => simp [same, elsewhere]
  · simp [same]

@[simp] theorem content?_put : (target.put place cell).content? other = target.content? other := by
  simp only [content?, put, List.getElem?_modify]
  cases target[other.1]? with
  | none => rfl
  | some record => split <;> rfl

@[simp] theorem frames_put :
    (target.put place cell).map Record.frame = target.map Record.frame := by
  apply List.ext_getElem?
  intro index
  simp only [put, List.getElem?_map, List.getElem?_modify]
  cases target[index]? with
  | none => rfl
  | some record => split <;> rfl

/-- Targets of the same types that hold the same everywhere are the same. -/
theorem eq_of_cells {first second : Target}
    (frames : first.map Record.frame = second.map Record.frame)
    (cells : ∀ place, first.cell? place = second.cell? place) : first = second := by
  have even : first.length = second.length := by simpa using congrArg List.length frames
  apply List.ext_getElem even
  intro part here there
  have frame : first[part].frame = second[part].frame := by
    simpa [here, there] using congrArg (·[part]?) frames
  have contents : first[part].cells = second[part].cells := by
    apply List.ext_getElem?
    intro index
    simpa [cell?, here, there] using cells (part, index)
  calc first[part] = ⟨first[part].frame.1, first[part].cells, first[part].frame.2⟩ := rfl
    _ = ⟨second[part].frame.1, second[part].cells, second[part].frame.2⟩ := by
        rw [frame, contents]

/-! ### One column and those behind it -/

theorem storeAll_cons : content.storeAll present (value :: values) =
    content.store present value >>= fun cell => content.storeAll cell values :=
  List.foldlM_cons ..

theorem settles_nil_iff : target.Settles place [] final ↔ final = target.cell? place := by
  constructor
  · intro settles
    cases settles with
    | untouched => rfl
    | stored _ held stores =>
        cases stores
        exact held.symm
  · rintro rfl
    exact .untouched

/-- A value that is stored first leaves the others to be stored behind it. -/
theorem settles_put_iff (defined : target.content? place = some content)
    (held : target.cell? place = some present) (stores : content.store present value = .ok cell) :
    (target.put place cell).Settles place values final ↔
      target.Settles place (value :: values) final := by
  have first : ∀ behind, content.storeAll present (value :: behind) =
      content.storeAll cell behind := by
    intro behind
    rw [storeAll_cons, stores]
    rfl
  constructor
  · intro settles
    cases settles with
    | untouched =>
        rw [cell?_put_self held]
        exact .stored defined held (first [])
    | stored again kept others =>
        rw [content?_put, defined] at again
        rw [cell?_put_self held] at kept
        cases again
        cases kept
        exact .stored defined held ((first values).trans others)
  · intro settles
    cases settles with
    | stored again kept all =>
        obtain rfl := Option.some.inj (defined.symm.trans again)
        obtain rfl := Option.some.inj (held.symm.trans kept)
        exact .stored (content?_put.trans defined) (cell?_put_self held)
          ((first values).symm.trans all)

theorem settles_put_ne_iff (apart : other ≠ place) :
    (target.put place cell).Settles other values final ↔
      target.Settles other values final := by
  constructor
  · intro settles
    cases settles with
    | untouched =>
        rw [cell?_put_ne apart]
        exact .untouched
    | stored defined held stores =>
        rw [content?_put] at defined
        rw [cell?_put_ne apart] at held
        exact .stored defined held stores
  · intro settles
    cases settles with
    | untouched =>
        rw [← cell?_put_ne apart]
        exact .untouched
    | stored defined held stores =>
        exact .stored (content?_put.trans defined) ((cell?_put_ne apart).trans held) stores

end Target

/-! ### Whole rows -/

section Rows

variable {typeName label : String} {layout : Layout} {part index : Nat} {value : Value}
  {columns rest : List (String × Slot × Value)} {target stored : Target}

/-- A value is stored in a field of a target if the target has the field and the value
converts. -/
theorem storeSlot_eq_ok_iff :
    storeSlot typeName layout label part index value target = .ok stored ↔
      ∃ content present cell, target.content? (part, index) = some content ∧
        target.cell? (part, index) = some present ∧ content.store present value = .ok cell ∧
        stored = target.put (part, index) cell := by
  unfold storeSlot
  cases here : target[part]? with
  | none => simp [Target.content?, here]
  | some record =>
      have changed : ∀ cell, target.put (part, index) cell =
          target.set part { record with cells := record.cells.set index cell } := by
        intro cell
        rw [Target.put, List.modify_eq_set_getElem?]
        simp [here]
      simp only [Target.content?, Target.cell?, here, Option.bind_some, Option.map_eq_some_iff,
        changed]
      constructor
      · intro success
        split at success
        · rename_i changed set
          cases success
          obtain ⟨field, present, cell, defined, held, stores, rfl⟩ := Record.set_eq_ok_iff.mp set
          exact ⟨_, present, cell, ⟨field, defined, rfl⟩, held, stores, rfl⟩
        · split at success
          · cases success
          · cases success
      · rintro ⟨_, present, cell, ⟨field, defined, rfl⟩, held, stores, rfl⟩
        rw [Record.set_eq_ok_iff.mpr ⟨field, present, cell, defined, held, stores, rfl⟩]

/-- Of columns, a target sees the values at its places. -/
theorem receives_congr {others : List (String × Slot × Value)}
    (same : ∀ place, valuesAt columns place = valuesAt others place) :
    target.Receives columns stored ↔ target.Receives others stored := by
  constructor
  · rintro ⟨frames, cells⟩
    exact ⟨frames, fun place => same place ▸ cells place⟩
  · rintro ⟨frames, cells⟩
    exact ⟨frames, fun place => (same place).symm ▸ cells place⟩

theorem valuesAt_self (place : Place) :
    valuesAt ((label, some place, value) :: rest) place = value :: valuesAt rest place := by
  simp [valuesAt]

theorem valuesAt_ne {place other : Place} (apart : other ≠ place) :
    valuesAt ((label, some place, value) :: rest) other = valuesAt rest other := by
  simp [valuesAt, apart.symm]

/-- A column whose value is stored leaves the columns behind it to a target that has
changed at the one place. -/
theorem receives_put_iff {place : Place} {content : FieldContent} {present cell : Cell}
    (defined : target.content? place = some content)
    (held : target.cell? place = some present) (stores : content.store present value = .ok cell) :
    (target.put place cell).Receives rest stored ↔
      target.Receives ((label, some place, value) :: rest) stored := by
  have everywhere : ∀ other final,
      (target.put place cell).Settles other (valuesAt rest other) final ↔
        target.Settles other (valuesAt ((label, some place, value) :: rest) other) final := by
    intro other final
    by_cases same : other = place
    · subst same
      rw [valuesAt_self]
      exact Target.settles_put_iff defined held stores
    · rw [valuesAt_ne same]
      exact Target.settles_put_ne_iff same
  constructor
  · rintro ⟨frames, cells⟩
    exact ⟨frames.trans Target.frames_put, fun other => (everywhere other _).mp (cells other)⟩
  · rintro ⟨frames, cells⟩
    exact ⟨frames.trans Target.frames_put.symm, fun other => (everywhere other _).mpr (cells other)⟩

/-- Columns are stored, and leave a given target, exactly if each place receives the values
of its columns there.  The induction is on the columns; what one of them has stored is the
target of the others. -/
theorem storeColumns_eq_ok_iff :
    storeColumns typeName layout columns target = (stored, .ok ()) ↔
      target.Receives columns stored := by
  induction columns generalizing target with
  | nil =>
      constructor
      · rintro ⟨⟩
        exact ⟨rfl, fun _ => .untouched⟩
      · rintro ⟨frames, cells⟩
        have same : stored = target :=
          Target.eq_of_cells frames fun place => Target.settles_nil_iff.mp (cells place)
        rw [storeColumns, same]
  | cons column rest inductionHypothesis =>
      obtain ⟨label, slot, value⟩ := column
      cases slot with
      | none =>
          rw [storeColumns, inductionHypothesis]
          exact receives_congr fun place => by simp [valuesAt]
      | some place =>
          obtain ⟨part, index⟩ := place
          constructor
          · intro success
            unfold storeColumns at success
            split at success
            · rename_i between first
              obtain ⟨content, present, cell, defined, held, stores, rfl⟩ :=
                storeSlot_eq_ok_iff.mp first
              exact (receives_put_iff defined held stores).mp (inductionHypothesis.mp success)
            · cases success
          · intro receives
            have settles := receives.cells (part, index)
            rw [valuesAt_self] at settles
            generalize reached : stored.cell? (part, index) = final at settles
            cases settles with
            | @stored content present cell _ defined held all =>
                obtain ⟨between, stores, _⟩ := ok_of_bind (Target.storeAll_cons.symm.trans all)
                rw [storeColumns, storeSlot_eq_ok_iff.mpr
                  ⟨content, present, between, defined, held, stores, rfl⟩]
                exact inductionHypothesis.mpr ((receives_put_iff defined held stores).mpr receives)

end Rows

end RecordMapping
