/-
Module: RecordMapping.Proofs.KeyForms
Purpose: When the forms of a key give the same values to the identifying columns of a
  table.
Main exports: recordHas_iff_mem, takes_iff_mem, drawn_iff, key_forms_differ_on_repeated_column,
  key_forms_agree_on_distinct_columns
-/
import RecordMapping.Proofs.KeyOrder

namespace RecordMapping

/-!
A record and a map hold the same pairs, but they are searched in different ways.  The
fields of a record are only looked at, so one field may serve two identifying columns;
an entry of a map is taken out by the first column that asks for it, and is gone for the
next one.  Where no two columns differ in case only, on either side, nothing of this can
be seen.
-/

variable {id name : String} {ids rest : List String}
  {fields order : List (String × Value)} {entry other : String × Value} {value : Value}

/-! ### Pairs whose columns are distinct -/

/-- Of pairs whose columns differ by more than their case, one answers to a name. -/
theorem entry_unique (distinct : (fields.map fun entry => Text.columnKey entry.1).Nodup)
    (member : entry ∈ fields) (present : other ∈ fields)
    (same : Text.sameColumn entry.1 id = true) (alike : Text.sameColumn other.1 id = true) :
    entry = other := by
  have keys : Text.columnKey entry.1 = Text.columnKey other.1 :=
    (Text.sameColumn_iff.mp same).trans (Text.sameColumn_iff.mp alike).symm
  exact List.inj_on_of_nodup_map distinct member present keys

theorem recordHas_iff_mem (distinct : (fields.map fun entry => Text.columnKey entry.1).Nodup) :
    RecordHas fields id value ↔
      ∃ name, (name, value) ∈ fields ∧ Text.sameColumn name id = true := by
  constructor
  · rintro ⟨name, first⟩
    exact ⟨name, first.member, first.accepted⟩
  · rintro ⟨name, member, same⟩
    obtain ⟨first, found⟩ := exists_firstEntry (Text.sameColumn · id) member same
    obtain rfl := entry_unique distinct found.member member found.accepted same
    exact ⟨name, found⟩

theorem takes_iff_mem (distinct : (fields.map fun entry => Text.columnKey entry.1).Nodup) :
    Takes id fields entry ↔ entry ∈ fields ∧ Text.sameColumn entry.1 id = true := by
  constructor
  · intro takes
    exact ⟨takes.candidate.member, takes.candidate.sameColumn⟩
  · rintro ⟨member, same⟩
    have held : Text.columnKey id ∈ fields.map fun entry => Text.columnKey entry.1 :=
      List.mem_map.mpr ⟨entry, member, Text.sameColumn_iff.mp same⟩
    obtain ⟨taken, takes⟩ := exists_takes_iff.mpr held
    obtain rfl := entry_unique distinct takes.candidate.member member
      takes.candidate.sameColumn same
    exact takes

/-- Once a column has taken its entry, the map still has the values of the columns that
differ from it by more than their case, and of no others. -/
theorem recordHas_filter_iff
    (distinct : (fields.map fun entry => Text.columnKey entry.1).Nodup)
    (takes : Takes id fields entry) {column : String} :
    RecordHas (fields.filter fun other => other.1 != entry.1) column value ↔
      Text.sameColumn column id = false ∧ RecordHas fields column value := by
  obtain ⟨member, same⟩ := (takes_iff_mem distinct).mp takes
  rw [recordHas_iff_mem distinct,
    recordHas_iff_mem (distinct.sublist (List.filter_sublist.map _))]
  simp only [List.mem_filter, bne_iff_ne]
  constructor
  · rintro ⟨name, ⟨present, apart⟩, answers⟩
    refine ⟨?_, name, present, answers⟩
    by_contra alike
    have again : Text.sameColumn name id = true := by
      rw [Bool.not_eq_false, Text.sameColumn_iff] at alike
      rw [Text.sameColumn_iff] at answers ⊢
      exact answers.trans alike
    exact apart (congrArg Prod.fst (entry_unique distinct present member again same))
  · rintro ⟨unlike, name, present, answers⟩
    refine ⟨name, ⟨present, ?_⟩, answers⟩
    rintro rfl
    rw [Text.sameColumn_comm, Text.sameColumn_iff] at answers
    rw [Text.sameColumn_iff] at same
    rw [Text.sameColumn_iff.mpr (answers.trans same)] at unlike
    cases unlike

/-- From a map whose columns are distinct, identifying columns draw what a record has for
them, if they are distinct themselves. -/
theorem drawn_iff (distinct : (fields.map fun entry => Text.columnKey entry.1).Nodup)
    {values : List Value} :
    Drawn ids fields values ↔
      List.Forall₂ (RecordHas fields) ids values ∧ (ids.map Text.columnKey).Nodup := by
  induction ids generalizing fields values with
  | nil =>
      constructor
      · rintro ⟨⟩
        exact ⟨.nil, .nil⟩
      · rintro ⟨⟨⟩, _⟩
        exact .nil
  | cons id rest inductionHypothesis =>
      have others : ∀ {entry : String × Value}, Takes id fields entry → ∀ {behind},
          Drawn rest (fields.filter fun other => other.1 != entry.1) behind ↔
            ((∀ column ∈ rest, Text.sameColumn column id = false) ∧
              List.Forall₂ (RecordHas fields) rest behind) ∧
            (rest.map Text.columnKey).Nodup := by
        intro entry takes behind
        have left : RecordHas (fields.filter fun other => other.1 != entry.1) =
            fun column value =>
              Text.sameColumn column id = false ∧ RecordHas fields column value := by
          funext column value
          exact propext (recordHas_filter_iff distinct takes)
        rw [inductionHypothesis (distinct.sublist (List.filter_sublist.map _)), left,
          List.forall₂_and_left]
      have fresh : Text.columnKey id ∉ rest.map Text.columnKey ↔
          ∀ column ∈ rest, Text.sameColumn column id = false := by
        simp [Text.sameColumn]
      rw [List.map_cons, List.nodup_cons, fresh]
      constructor
      · intro drawn
        cases drawn with
        | @cons _ name _ _ value behind takes drawn =>
            obtain ⟨⟨unlike, found⟩, apart⟩ := (others takes).mp drawn
            have held := (takes_iff_mem distinct).mp takes
            exact ⟨.cons ((recordHas_iff_mem distinct).mpr ⟨name, held⟩) found, unlike, apart⟩
      · rintro ⟨found, unlike, apart⟩
        cases found with
        | cons has found =>
            obtain ⟨name, held⟩ := (recordHas_iff_mem distinct).mp has
            have takes := (takes_iff_mem distinct).mpr held
            exact .cons takes ((others takes).mpr ⟨⟨unlike, found⟩, apart⟩)

/-- What a record has for columns is the same in every order of its pairs. -/
theorem recordHas_perm (distinct : (fields.map fun entry => Text.columnKey entry.1).Nodup)
    (same : order.Perm fields) : RecordHas order = RecordHas fields := by
  have shuffled : (order.map fun entry => Text.columnKey entry.1).Nodup :=
    (same.map _).nodup_iff.mpr distinct
  funext id value
  simp only [recordHas_iff_mem distinct, recordHas_iff_mem shuffled, same.mem_iff]

/-! ### Keys -/

namespace DeleteKey

/-- A map supplies identifying columns as the record of the same pairs does, if no two of
them differ in case only. -/
theorem supplies_byFields_iff
    (distinct : (fields.map fun entry => Text.columnKey entry.1).Nodup)
    (same : order.Perm fields) {values : List Value} :
    (byFields order).Supplies ids values ↔
      (byRecord fields).Supplies ids values ∧ (ids.map Text.columnKey).Nodup := by
  have shuffled : (order.map fun entry => Text.columnKey entry.1).Nodup :=
    (same.map _).nodup_iff.mpr distinct
  have draws : Drawn ids order values ↔
      List.Forall₂ (RecordHas fields) ids values ∧ (ids.map Text.columnKey).Nodup := by
    rw [drawn_iff shuffled, recordHas_perm distinct same]
  constructor
  · intro supplies
    cases supplies with
    | fields drawn =>
        obtain ⟨found, apart⟩ := draws.mp drawn
        exact ⟨.record found, apart⟩
  · rintro ⟨supplies, apart⟩
    cases supplies with
    | record found => exact .fields (draws.mpr ⟨found, apart⟩)

/-- A single value supplies a single identifying column as the record does that has the
value for it. -/
theorem supplies_byScalar_iff
    (distinct : (fields.map fun entry => Text.columnKey entry.1).Nodup)
    (member : (name, value) ∈ fields) (same : Text.sameColumn name id = true)
    {values : List Value} :
    (byScalar value).Supplies [id] values ↔ (byRecord fields).Supplies [id] values := by
  have has : RecordHas fields id value := (recordHas_iff_mem distinct).mpr ⟨name, member, same⟩
  constructor
  · intro supplies
    cases supplies with
    | scalar => exact .record (.cons has .nil)
  · intro supplies
    cases supplies with
    | record found =>
        cases found with
        | cons first none =>
            cases none
            obtain ⟨_, held⟩ := has
            obtain ⟨_, found⟩ := first
            obtain ⟨_, rfl⟩ := Prod.mk.inj (held.unique found)
            exact .scalar

/-- A table may name a column twice in different cases.  A record has a value for both,
and a map of the same pairs has none left for the second. -/
theorem key_forms_differ_on_repeated_column :
    ¬ ∀ (table : Table) (fields keys : List (String × Value)), table.validate = .ok () →
      (fields.map fun entry => Text.columnKey entry.1).Nodup →
        ((byRecord fields).resolve table = .ok keys ↔
          (byFields fields).resolve table = .ok keys) := by
  intro always
  have agree := always ⟨"accounts", ["id", "ID"]⟩ [("id", .ofInt .int64 1)]
    [("id", .ofInt .int64 1), ("ID", .ofInt .int64 1)] rfl (by decide)
  exact absurd (agree.mp (by decide)) (by decide)

/-- Pairs whose columns are distinct are resolved as a map, in any order, to what they are
resolved to as a record, except that a map fails for a table of which two identifying
columns differ in case only.  The value that they have for the only identifying column of
a table is resolved to the same as a single value. -/
theorem key_forms_agree_on_distinct_columns (table : Table)
    (distinct : (fields.map fun entry => Text.columnKey entry.1).Nodup)
    (same : order.Perm fields) :
    (∀ keys, (byFields order).resolve table = .ok keys ↔
        (byRecord fields).resolve table = .ok keys ∧
          (table.ids.map Text.columnKey).Nodup) ∧
      ∀ id name value, table.ids = [id] → (name, value) ∈ fields →
        Text.sameColumn name id = true → ∀ keys,
          ((byScalar value).resolve table = .ok keys ↔
              (byRecord fields).resolve table = .ok keys) ∧
            ((byScalar value).resolve table = .ok keys ↔
              (byFields order).resolve table = .ok keys) := by
  have maps : ∀ keys, (byFields order).resolve table = .ok keys ↔
      (byRecord fields).resolve table = .ok keys ∧ (table.ids.map Text.columnKey).Nodup := by
    intro keys
    simp only [resolve_eq_ok_iff, supplies_byFields_iff distinct same]
    constructor
    · rintro ⟨valid, values, ⟨supplies, apart⟩, identify, rfl⟩
      exact ⟨⟨valid, values, supplies, identify, rfl⟩, apart⟩
    · rintro ⟨⟨valid, values, supplies, identify, rfl⟩, apart⟩
      exact ⟨valid, values, ⟨supplies, apart⟩, identify, rfl⟩
  refine ⟨maps, fun id name value single member alike keys => ?_⟩
  have scalar : (byScalar value).resolve table = .ok keys ↔
      (byRecord fields).resolve table = .ok keys := by
    simp only [resolve_eq_ok_iff, single, supplies_byScalar_iff distinct member alike]
  refine ⟨scalar, scalar.trans ?_⟩
  simp [maps, single]

/-- Three pairs in another order and in other cases: both columns of one table are found,
and the only column of another, where the value alone does as well. -/
theorem key_forms_agree_on_distinct_columns_shuffled :
    let seven : Value := .ofInt .int64 7
    let mark : Value := .varchar (some "x")
    let fields : List (String × Value) := [("note", .null), ("MARK", mark), ("iD", seven)]
    let order : List (String × Value) := [("iD", seven), ("note", .null), ("MARK", mark)]
    (fields.map fun entry => Text.columnKey entry.1).Nodup ∧ order.Perm fields ∧
      (byFields order).resolve ⟨"t", ["Id", "mark"]⟩ = .ok [("Id", seven), ("mark", mark)] ∧
      (byScalar seven).resolve (.named "t") = .ok [("id", seven)] ∧
      (byFields order).resolve (.named "t") = .ok [("id", seven)] := by
  intro seven mark fields order
  have distinct : (fields.map fun entry => Text.columnKey entry.1).Nodup := by decide
  have same : order.Perm fields := by decide
  obtain ⟨pairs, _⟩ := key_forms_agree_on_distinct_columns ⟨"t", ["Id", "mark"]⟩ distinct same
  obtain ⟨_, alone⟩ := key_forms_agree_on_distinct_columns (.named "t") distinct same
  have scalar : (byScalar seven).resolve (.named "t") = .ok [("id", seven)] := rfl
  have forms := alone "id" "iD" seven rfl (by decide) (by decide) [("id", seven)]
  exact ⟨distinct, same, (pairs _).mpr ⟨by decide, by decide⟩, scalar, forms.2.mp scalar⟩

end DeleteKey

end RecordMapping
