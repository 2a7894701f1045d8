/-
Module: RecordMapping.Proofs.SelectionAgreement
Purpose: The columns that a completed query selects are those that the scanner binds.
Main exports: Layout.Asks, Layout.Reports, Layout.slots, Layout.asks_slots,
  select_agrees_with_scanner
-/
import Mathlib.Data.List.Forall2
import Mathlib.Data.List.NodupEquivFin
import RecordMapping.Conformance.Sample
import RecordMapping.Proofs.ColumnLookup
import RecordMapping.Scan.Scanner
import RecordMapping.Statement.Selection

namespace RecordMapping

/-!
The list of selected columns and the assignment of columns to fields are two
walks over the same layout.  One writes a name per field, the other gives each
position a part and a field of it.  Both are compared here with one notion:
which item asks for which field.
-/

/-- The item that asks for a field: the quoted column of a plain record, and
the same behind the quoted alias of its part in a join. -/
inductive Layout.Asks (dialect : Dialect) : Layout → Nat × Nat → String → Prop where
  | column {metadata : RecordMeta} {field : Nat} {definition : FieldDef}
      (held : metadata.fields[field]? = some definition) :
      Asks dialect (.table metadata) (0, field) (dialect.identifier definition.column)
  | aliased {parts : List JoinedMeta} {part field : Nat} {joined : JoinedMeta}
      {definition : FieldDef} (present : parts[part]? = some joined)
      (held : joined.metadata.fields[field]? = some definition) :
      Asks dialect (.join parts) (part, field)
        (dialect.identifier joined.tableAlias ++ "." ++
          dialect.identifier definition.column)

/-- The labels of a result may be bound at a position: in a join they are as
many as the columns, and for a plain record the one at the position is the
column of the field in any ASCII case. -/
def Layout.Reports (layout : Layout) (slot : Nat × Nat) (position : Nat)
    (labels : List String) : Prop :=
  match layout with
  | .table metadata =>
      ∃ label definition, labels[position]? = some label ∧
        metadata.fields[slot.2]? = some definition ∧
        Text.sameColumn definition.column label = true
  | .join _ => labels.length = layout.width

namespace Layout

/-! ### Positions -/

/-- The part and the field of each position of a row. -/
def slots : Layout → List (Nat × Nat)
  | .table metadata => (List.range metadata.fields.length).map fun field => (0, field)
  | .join parts => positions parts

theorem mem_positions {parts : List JoinedMeta} {part field : Nat} :
    (part, field) ∈ positions parts ↔
      ∃ joined, parts[part]? = some joined ∧ field < joined.metadata.fields.length := by
  simp only [positions, List.mem_flatMap, List.mem_map, List.mem_range, Prod.exists,
    List.mk_mem_zipIdx_iff_getElem?, Prod.mk.injEq]
  constructor
  · rintro ⟨joined, index, present, other, inside, rfl, rfl⟩
    exact ⟨joined, present, inside⟩
  · rintro ⟨joined, present, inside⟩
    exact ⟨joined, part, present, field, inside, rfl, rfl⟩

/-- The positions of a join are the fields that the layout has. -/
theorem mem_slots {layout : Layout} {slot : Nat × Nat} :
    slot ∈ layout.slots ↔ (layout.fieldAt? slot.1 slot.2).isSome = true := by
  obtain ⟨part, field⟩ := slot
  cases layout with
  | table metadata =>
      cases part with
      | zero => simp [slots, fieldAt?, metadatas]
      | succ part => simp [slots, fieldAt?, metadatas]
  | join parts =>
      rw [slots, mem_positions]
      cases present : parts[part]? with
      | none => simp [fieldAt?, metadatas, present]
      | some joined => simp [fieldAt?, metadatas, present]

/-- No field has two positions: parts differ in their index, and the fields of
one part in theirs. -/
theorem nodup_slots (layout : Layout) : layout.slots.Nodup := by
  have fieldsApart (part count : Nat) :
      ((List.range count).map fun field => (part, field)).Nodup :=
    List.nodup_range.map fun first second same => (Prod.mk.inj same).2
  cases layout with
  | table metadata => exact fieldsApart 0 metadata.fields.length
  | join parts =>
      rw [slots, positions, List.nodup_flatMap]
      refine ⟨fun entry _ => fieldsApart entry.2 _, ?_⟩
      have indicesApart : parts.zipIdx.Pairwise fun first second => first.2 ≠ second.2 := by
        rw [← List.pairwise_map, List.zipIdx_map_snd]
        exact List.nodup_range'
      refine indicesApart.imp fun {first second} apart slot inFirst inSecond => ?_
      obtain ⟨_, _, rfl⟩ := List.mem_map.mp inFirst
      obtain ⟨_, _, same⟩ := List.mem_map.mp inSecond
      exact apart (Prod.mk.inj same).1.symm

/-! ### Items -/

/-- The fields of one record and the names written for them stand in the same
order. -/
theorem forall₂_fields {relation : Nat × Nat → String → Prop} {part : Nat}
    {metadata : RecordMeta} {write : String → String}
    (each : ∀ field definition, metadata.fields[field]? = some definition →
      relation (part, field) (write definition.column)) :
    List.Forall₂ relation
      ((List.range metadata.fields.length).map fun field => (part, field))
      (metadata.columns.map write) := by
  refine List.forall₂_iff_get.mpr ⟨by simp [RecordMeta.columns], fun index here there => ?_⟩
  have inside : index < metadata.fields.length := by simpa using here
  simpa [RecordMeta.columns] using each index _ (List.getElem?_eq_getElem inside)

/-- The walk over the parts behind `front` reaches the same field with both of
its results, since the part at which it stands has the index `front.length`. -/
theorem forall₂_parts (dialect : Dialect) (front rest : List JoinedMeta) :
    List.Forall₂ (Asks dialect (.join (front ++ rest)))
      ((rest.zipIdx front.length).flatMap fun (joined, index) =>
        (List.range joined.metadata.fields.length).map fun field => (index, field))
      (selectItems dialect (.join rest)) := by
  induction rest generalizing front with
  | nil => exact .nil
  | cons joined rest inductionHypothesis =>
      have present : (front ++ joined :: rest)[front.length]? = some joined := by simp
      have here : List.Forall₂ (Asks dialect (.join (front ++ joined :: rest)))
          ((List.range joined.metadata.fields.length).map fun field => (front.length, field))
          (joined.metadata.columns.map fun column =>
            dialect.identifier joined.tableAlias ++ "." ++ dialect.identifier column) :=
        forall₂_fields fun field definition held => .aliased present held
      have behind := inductionHypothesis (front ++ [joined])
      simp only [List.append_assoc, List.singleton_append, List.length_append,
        List.length_singleton] at behind
      exact List.rel_append here behind

/-- The item at each position asks for the field that has the position. -/
theorem asks_slots (dialect : Dialect) (layout : Layout) :
    List.Forall₂ (Asks dialect layout) layout.slots (layout.selectItems dialect) := by
  cases layout with
  | table metadata => exact forall₂_fields fun field definition held => .column held
  | join parts => simpa [slots, positions] using forall₂_parts dialect [] parts

theorem length_slots (layout : Layout) : layout.slots.length = layout.width := by
  cases layout with
  | table metadata => simp [slots, width, metadatas]
  | join parts =>
      calc (positions parts).length
          = (parts.zipIdx.map fun entry => entry.1.metadata.fields.length).sum := by
            simp [positions, List.length_flatMap]
        _ = ((parts.zipIdx.map Prod.fst).map fun joined =>
              joined.metadata.fields.length).sum := by
            rw [List.map_map]
            rfl
        _ = (parts.map fun joined => joined.metadata.fields.length).sum := by
            rw [List.zipIdx_map_fst]
        _ = width (.join parts) := by
            simp [width, metadatas, List.length_flatMap, Function.comp_def]

/-- The positions of a row and the fields of a layout, one to one. -/
def slotEquiv (layout : Layout) :
    Fin layout.width ≃
      {slot : Nat × Nat // (layout.fieldAt? slot.1 slot.2).isSome = true} :=
  (finCongr layout.length_slots.symm).trans
    ((layout.nodup_slots.getEquiv layout.slots).trans
      (Equiv.subtypeEquivRight fun _ => mem_slots))

theorem getElem?_slots (layout : Layout) (position : Fin layout.width) :
    layout.slots[position.val]? = some (layout.slotEquiv position).val := by
  have inside : position.val < layout.slots.length := by
    rw [layout.length_slots]
    exact position.isLt
  exact List.getElem?_eq_getElem inside

/-! ### Both walks -/

/-- A label that may be bound at a position is given the field that has the
position. -/
theorem mapLabels_of_reports {layout : Layout} {typeName : String} {labels : List String}
    {position : Nat} {slot : Nat × Nat} (placed : layout.slots[position]? = some slot)
    (reports : layout.Reports slot position labels) :
    ∃ assigned, layout.mapLabels typeName labels = .ok assigned ∧
      assigned[position]? = some (some slot) := by
  cases layout with
  | table metadata =>
      obtain ⟨label, definition, read, held, same⟩ := reports
      have slotHere : slot = (0, position) := by
        obtain ⟨_, here⟩ := List.getElem?_eq_some_iff.mp placed
        simpa [slots] using here.symm
      subst slotHere
      have found : metadata.fieldIndex? label = some position :=
        RecordMeta.fieldIndex?_eq_some_iff.mpr ⟨definition, held, same⟩
      exact ⟨_, rfl, by simp [List.getElem?_map, read, found]⟩
  | join parts =>
      have counted : labels.length = width (.join parts) := reports
      refine ⟨(positions parts).map some, by simp [mapLabels, counted], ?_⟩
      have placedHere : (positions parts)[position]? = some slot := placed
      simp [List.getElem?_map, placedHere]

/-- Every item of a list of selected columns is written. -/
theorem Asks.item_ne_empty {dialect : Dialect} {layout : Layout} {slot : Nat × Nat}
    {item : String} (asks : layout.Asks dialect slot item) : item ≠ "" := by
  cases asks with
  | column held => exact Text.Quotes.quote_ne_empty _ _
  | aliased present held =>
      intro blank
      have aliasBlank := (String.append_eq_empty_iff.mp
        (String.append_eq_empty_iff.mp blank).1).1
      exact Text.Quotes.quote_ne_empty _ _ aliasBlank

theorem selectItems_written (dialect : Dialect) (layout : Layout) :
    ∀ item ∈ layout.selectItems dialect, item ≠ "" := by
  intro item member
  obtain ⟨index, inside, rfl⟩ := List.getElem_of_mem member
  have asks := (List.forall₂_iff_get.mp (layout.asks_slots dialect)).2 index
    (by rw [(layout.asks_slots dialect).length_eq]; exact inside) inside
  exact asks.item_ne_empty

end Layout

/-- A query that does not select for itself is completed by one item per
position of a row, and the scanner binds each position to the field that its
item asks for.  Positions and fields correspond one to one, so no field is left
out and none is bound twice. -/
theorem select_agrees_with_scanner (dialect : Dialect) (layout : Layout)
    (typeName query : String) (incomplete : startsWithSelect query = false) :
    ∃ (items : Fin layout.width → String)
      (slotOf : Fin layout.width ≃
        {slot : Nat × Nat // (layout.fieldAt? slot.1 slot.2).isSome = true}),
      dialect.select layout query =
        .ok ("SELECT " ++ ", ".intercalate (List.ofFn items) ++ " " ++
          Text.trimStart query) ∧
      ∀ position,
        layout.Asks dialect (slotOf position) (items position) ∧
        ∀ labels, layout.Reports (slotOf position) position labels →
          ∃ assigned, layout.mapLabels typeName labels = .ok assigned ∧
            assigned[position.val]? = some (some (slotOf position).val) := by
  have sameLength := (layout.asks_slots dialect).length_eq
  have counted : (layout.selectItems dialect).length = layout.width :=
    sameLength.symm.trans layout.length_slots
  let items : Fin layout.width → String := fun position =>
    (layout.selectItems dialect).get ⟨position.val, by rw [counted]; exact position.isLt⟩
  have listed : List.ofFn items = layout.selectItems dialect := by
    apply List.ext_getElem
    · simp [counted]
    · intro index here there
      simp [items]
  refine ⟨items, layout.slotEquiv, ?_, fun position => ⟨?_, fun labels reports => ?_⟩⟩
  · rw [listed, ← Text.separated_eq_intercalate (layout.selectItems_written dialect)]
    simp [Dialect.select, incomplete]
  · have placed := layout.getElem?_slots position
    obtain ⟨inside, here⟩ := List.getElem?_eq_some_iff.mp placed
    have asks := (List.forall₂_iff_get.mp (layout.asks_slots dialect)).2 position.val inside
      (by rw [counted]; exact position.isLt)
    simpa only [List.get_eq_getElem, here, items] using asks
  · exact Layout.mapLabels_of_reports (layout.getElem?_slots position) reports

/-- Users joined with their posts: seven items between brackets, seven fields. -/
theorem select_agrees_with_scanner_users_posts :
    startsWithSelect "\n from users u, posts p" = false ∧
    ∃ layout, Conformance.userPosts.layout = .ok layout ∧ layout.width = 7 ∧
    ∃ (items : Fin layout.width → String)
      (slotOf : Fin layout.width ≃
        {slot : Nat × Nat // (layout.fieldAt? slot.1 slot.2).isSome = true}),
      Dialect.sqlserver.select layout "\n from users u, posts p" =
        .ok ("SELECT " ++ ", ".intercalate (List.ofFn items) ++ " " ++
          Text.trimStart "\n from users u, posts p") ∧
      ∀ position,
        layout.Asks Dialect.sqlserver (slotOf position) (items position) ∧
        ∀ labels, layout.Reports (slotOf position) position labels →
          ∃ assigned, layout.mapLabels Conformance.userPosts.typeName labels = .ok assigned ∧
            assigned[position.val]? = some (some (slotOf position).val) := by
  have incomplete : startsWithSelect "\n from users u, posts p" = false := by decide
  exact ⟨incomplete, _, rfl, by decide,
    select_agrees_with_scanner _ _ Conformance.userPosts.typeName _ incomplete⟩

end RecordMapping
