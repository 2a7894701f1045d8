/-
Module: RecordMapping.Proofs.FieldLists
Purpose: Which field lists are mapped, which flaw is reported of the others, and what the
  lookup of a mapped list answers.
Main exports: Text.EqualButCase, RecordMeta.WellFormed, RecordMeta.FirstFlaw,
  RecordMeta.LooksUpColumns, RecordMapping.field_list_accepted_exactly
-/
import RecordMapping.Proofs.ColumnLookup
import RecordMapping.Table

namespace RecordMapping

/-!
A field list is well-formed when it is not empty and each of its fields is named, visible
and under a column of its own.  The flaw of any other list is that of the first field which
a well-formed front cannot be followed by; at that field a missing name comes before
missing visibility, and that before a column that the front has already.  What it is to be
the same column is said of the letters here, and not of the keys that the lookup compares.
-/

namespace Text

/-- One of the twenty-six ASCII capitals, and its small letter. -/
def IsCapitalOf (capital small : Char) : Prop :=
  65 ≤ capital.toNat ∧ capital.toNat ≤ 90 ∧ small.toNat = capital.toNat + 32

/-- Two characters that are the same, or the same ASCII letter in two cases. -/
def SameLetter (first second : Char) : Prop :=
  first = second ∨ IsCapitalOf first second ∨ IsCapitalOf second first

/-- Two texts that differ in the case of ASCII letters only. -/
def EqualButCase (first second : String) : Prop :=
  List.Forall₂ SameLetter first.toList second.toList

theorem toNat_toLower (character : Char) :
    character.toLower.toNat =
      if 65 ≤ character.toNat ∧ character.toNat ≤ 90 then character.toNat + 32
      else character.toNat := by
  have range : (character.val ≥ 'A'.val ∧ character.val ≤ 'Z'.val) ↔
      65 ≤ character.toNat ∧ character.toNat ≤ 90 := by
    simp [UInt32.le_iff_toNat_le]
  unfold Char.toLower
  by_cases capital : 65 ≤ character.toNat ∧ character.toNat ≤ 90
  · rw [dif_pos (range.mpr capital), if_pos capital]
    have small : character.val.toNat + 32 < 2 ^ 32 := by
      have := capital.2
      simp only [Char.toNat] at this
      omega
    have shifted : (character.val + ('a'.val - 'A'.val)).toNat =
        (character.val.toNat + 32) % 2 ^ 32 := UInt32.toNat_add _ _
    exact shifted.trans (Nat.mod_eq_of_lt small)
  · rw [dif_neg (mt range.mp capital), if_neg capital]

theorem toLower_eq_toLower_iff {first second : Char} :
    first.toLower = second.toLower ↔ SameLetter first second := by
  rw [← Char.toNat_inj, toNat_toLower, toNat_toLower]
  unfold SameLetter IsCapitalOf
  rw [← Char.toNat_inj]
  split <;> split <;> omega

/-- The keys of two names are equal exactly when the names differ in the case of ASCII
letters only. -/
theorem sameColumn_iff_equalButCase {first second : String} :
    sameColumn first second = true ↔ EqualButCase first second := by
  rw [sameColumn_iff, columnKey, columnKey, String.ofList_inj, EqualButCase,
    ← List.forall₂_eq_eq_eq, List.forall₂_map_left_iff, List.forall₂_map_right_iff]
  simp only [toLower_eq_toLower_iff]

/-- A character beyond ASCII is the same letter as itself only. -/
theorem SameLetter.eq_of_beyond_ascii {first second : Char} (same : SameLetter first second)
    (beyond : 127 < first.toNat ∨ 127 < second.toNat) : first = second := by
  rcases same with same | ⟨_, high, shift⟩ | ⟨_, high, shift⟩
  · exact same
  · omega
  · omega

/-- Names that are equal but for case agree in every character beyond ASCII. -/
theorem EqualButCase.eq_of_beyond_ascii {first second : String}
    (same : EqualButCase first second) {position : Nat} {one two : Char}
    (here : first.toList[position]? = some one) (there : second.toList[position]? = some two)
    (beyond : 127 < one.toNat ∨ 127 < two.toNat) : one = two := by
  obtain ⟨inside, rfl⟩ := List.getElem?_eq_some_iff.mp here
  obtain ⟨within, rfl⟩ := List.getElem?_eq_some_iff.mp there
  exact (List.Forall₂.get same inside within).eq_of_beyond_ascii beyond

end Text

namespace RecordMeta

/-! ### The check of a field list -/

/-- Every field has a column name, is public, and no two columns are equal but for case. -/
structure WellFormed (fields : List FieldDef) : Prop where
  named : ∀ definition ∈ fields, definition.column ≠ ""
  shown : ∀ definition ∈ fields, definition.isPublic = true
  distinct : fields.Pairwise fun first second =>
    ¬ Text.EqualButCase first.column second.column

/-- What is reported of a field that stands behind `front`. -/
inductive FieldFlaw (typeName : String) (front : List FieldDef) (definition : FieldDef) :
    ConfigFault → Prop
  | unnamed (empty : definition.column = "") :
      FieldFlaw typeName front definition (.emptyColumn definition.field typeName)
  | hidden (named : definition.column ≠ "") (unseen : definition.isPublic = false) :
      FieldFlaw typeName front definition
        (.privateField definition.field typeName definition.column)
  | repeated (named : definition.column ≠ "") (shown : definition.isPublic = true)
      {earlier : FieldDef} (member : earlier ∈ front)
      (same : Text.EqualButCase earlier.column definition.column) :
      FieldFlaw typeName front definition (.duplicateColumn definition.column typeName)

/-- What is reported of a field list: that it is empty, or the flaw of the field behind its
longest well-formed front. -/
inductive FirstFlaw (typeName : String) : List FieldDef → ConfigFault → Prop
  | empty : FirstFlaw typeName [] (.noMappedField typeName)
  | field {front back : List FieldDef} {definition : FieldDef} {fault : ConfigFault}
      (passed : WellFormed front) (flaw : FieldFlaw typeName front definition fault) :
      FirstFlaw typeName (front ++ definition :: back) fault

variable {typeName : String} {fields front : List FieldDef} {definition : FieldDef}
  {fault : ConfigFault}

/-- A key is taken in the index of a front just if a field of the front has the column. -/
theorem lookup_isSome_iff {entered : ColumnIndex} (enters : entered.Enters front)
    {column : String} :
    (entered.lookup (Text.columnKey column)).isSome = true ↔
      ∃ earlier ∈ front, Text.EqualButCase earlier.column column := by
  simp only [Option.isSome_iff_exists, enters _ _, ← Text.sameColumn_iff_equalButCase,
    Text.sameColumn_iff]
  constructor
  · rintro ⟨place, earlier, held, same⟩
    exact ⟨earlier, List.mem_of_getElem? held, same⟩
  · rintro ⟨earlier, member, same⟩
    obtain ⟨place, held⟩ := List.mem_iff_getElem?.mp member
    exact ⟨place, earlier, held, same⟩

theorem WellFormed.concat (passed : WellFormed front) (named : definition.column ≠ "")
    (shown : definition.isPublic = true)
    (fresh : ∀ earlier ∈ front, ¬ Text.EqualButCase earlier.column definition.column) :
    WellFormed (front ++ [definition]) where
  named := by simpa [or_imp, forall_and] using ⟨passed.named, named⟩
  shown := by simpa [or_imp, forall_and] using ⟨passed.shown, shown⟩
  distinct := by
    rw [List.pairwise_append]
    refine ⟨passed.distinct, List.pairwise_singleton _ _, fun earlier member other last => ?_⟩
    rw [List.mem_singleton.mp last]
    exact fresh earlier member

/-- A field with a flaw ends every well-formed front in front of it. -/
theorem FieldFlaw.not_wellFormed (flaw : FieldFlaw typeName front definition fault)
    (back : List FieldDef) : ¬ WellFormed (front ++ definition :: back) := by
  intro passed
  cases flaw with
  | unnamed empty => exact passed.named definition (by simp) empty
  | hidden _ unseen =>
      rw [passed.shown definition (by simp)] at unseen
      cases unseen
  | repeated _ _ member same =>
      exact (List.pairwise_append.mp passed.distinct).2.2 _ member _ (by simp) same

theorem FieldFlaw.unique {other : ConfigFault}
    (flaw : FieldFlaw typeName front definition fault)
    (again : FieldFlaw typeName front definition other) : fault = other := by
  cases flaw <;> cases again <;> simp_all

/-- One step of the entering: a flaw of the next field is reported, and otherwise the front
grows by that field, and the index with it. -/
theorem enterColumns_cons (typeName : String) (definition : FieldDef) {entered : ColumnIndex}
    (passed : WellFormed front) (enters : entered.Enters front) (rest : List FieldDef) :
    (∃ fault, FieldFlaw typeName front definition fault ∧
        enterColumns typeName entered front.length (definition :: rest) = .error fault) ∨
      WellFormed (front ++ [definition]) ∧ ∃ grown : ColumnIndex,
        grown.Enters (front ++ [definition]) ∧
          enterColumns typeName entered front.length (definition :: rest) =
            enterColumns typeName grown (front ++ [definition]).length rest := by
  by_cases named : definition.column = ""
  · exact .inl ⟨_, .unnamed named, by simp [enterColumns, named]⟩
  by_cases shown : definition.isPublic = true
  · by_cases taken : (entered.lookup (Text.columnKey definition.column)).isSome = true
    · obtain ⟨earlier, member, same⟩ := (lookup_isSome_iff enters).mp taken
      exact .inl ⟨_, .repeated named shown member same, by
        simp only [enterColumns, String.isEmpty_iff, named, shown, taken, if_true, if_false,
          Bool.not_true, Bool.false_eq_true]⟩
    · refine .inr ⟨passed.concat named shown fun earlier member same =>
          taken ((lookup_isSome_iff enters).mpr ⟨earlier, member, same⟩), _,
        enters.concat (Option.not_isSome_iff_eq_none.mp taken), ?_⟩
      simp only [enterColumns, String.isEmpty_iff, named, shown, taken, if_false,
        Bool.not_true, Bool.false_eq_true, List.length_append, List.length_singleton]
  · have unseen : definition.isPublic = false := Bool.eq_false_iff.mpr shown
    exact .inl ⟨_, .hidden named unseen, by simp [enterColumns, named, unseen]⟩

/-- Behind a well-formed front, fields are entered to the end as long as all of them stay
well-formed; otherwise the flaw of the first field that does not is reported. -/
theorem enterColumns_cases (typeName : String) {entered : ColumnIndex}
    (passed : WellFormed front) (enters : entered.Enters front) (fields : List FieldDef) :
    (WellFormed (front ++ fields) ∧
        ∃ byColumn, enterColumns typeName entered front.length fields = .ok byColumn) ∨
      ∃ middle definition back fault, fields = middle ++ definition :: back ∧
        WellFormed (front ++ middle) ∧ FieldFlaw typeName (front ++ middle) definition fault ∧
          enterColumns typeName entered front.length fields = .error fault := by
  induction fields generalizing front entered with
  | nil => exact .inl ⟨by simpa using passed, entered, rfl⟩
  | cons next rest inductionHypothesis =>
      rcases enterColumns_cons typeName next passed enters rest
        with ⟨fault, flaw, refused⟩ | ⟨longer, grown, behind, stepped⟩
      · exact .inr ⟨[], next, rest, fault, rfl, by simpa using passed, by simpa using flaw,
          refused⟩
      · rw [stepped]
        rcases inductionHypothesis longer behind with ⟨whole, byColumn, done⟩ |
          ⟨middle, definition, back, fault, rfl, passed, flaw, refused⟩
        · exact .inl ⟨by simpa using whole, byColumn, done⟩
        · exact .inr ⟨next :: middle, definition, back, fault, rfl, by simpa using passed,
            by simpa using flaw, refused⟩

theorem wellFormed_nil : WellFormed [] where
  named _ member := absurd member List.not_mem_nil
  shown _ member := absurd member List.not_mem_nil
  distinct := .nil

/-- A field list has one first flaw: a well-formed front does not go past a field with a
flaw. -/
theorem FirstFlaw.unique {other : ConfigFault} (first : FirstFlaw typeName fields fault)
    (again : FirstFlaw typeName fields other) : fault = other := by
  cases first with
  | empty =>
      generalize nothing : ([] : List FieldDef) = fields at again
      cases again with
      | empty => rfl
      | field => simp at nothing
  | @field front back definition _ passed flaw =>
      generalize split : front ++ definition :: back = fields at again
      cases again with
      | empty => simp at split
      | @field front' back' definition' _ passed' flaw' =>
          rcases List.append_eq_append_iff.mp split with ⟨middle, rfl, rest⟩ |
            ⟨middle, rfl, rest⟩
          · cases middle with
            | nil =>
                obtain ⟨rfl, _⟩ := List.cons.inj rest
                exact flaw.unique (by simpa using flaw')
            | cons next middle =>
                obtain ⟨rfl, _⟩ := List.cons.inj rest
                exact absurd passed' (flaw.not_wellFormed middle)
          · cases middle with
            | nil =>
                obtain ⟨rfl, _⟩ := List.cons.inj rest
                exact FieldFlaw.unique (by simpa using flaw) flaw'
            | cons next middle =>
                obtain ⟨rfl, _⟩ := List.cons.inj rest
                exact absurd passed (flaw'.not_wellFormed middle)

/-- A field list has an index, if it is not empty and well-formed, or a first flaw, which is
then its fault. -/
theorem index_cases (typeName : String) (fields : List FieldDef) :
    (fields ≠ [] ∧ WellFormed fields ∧ ∃ byColumn, index typeName fields = .ok byColumn) ∨
      ∃ fault, FirstFlaw typeName fields fault ∧ index typeName fields = .error fault := by
  cases fields with
  | nil => exact .inr ⟨_, .empty, rfl⟩
  | cons first rest =>
      rcases enterColumns_cases typeName wellFormed_nil ColumnIndex.enters_nil (first :: rest)
        with ⟨whole, byColumn, done⟩ |
          ⟨front, definition, back, fault, split, passed, flaw, refused⟩
      · exact .inl ⟨List.cons_ne_nil _ _, whole, byColumn, done⟩
      · refine .inr ⟨fault, ?_, refused⟩
        rw [split]
        exact .field passed flaw

/-- The fault of a field list is its first flaw. -/
theorem index_eq_error_iff : index typeName fields = .error fault ↔
    FirstFlaw typeName fields fault := by
  constructor
  · intro reported
    rcases index_cases typeName fields with ⟨_, _, byColumn, done⟩ | ⟨found, flaw, refused⟩
    · rw [reported] at done
      cases done
    · obtain rfl : fault = found := Except.error.inj (reported.symm.trans refused)
      exact flaw
  · intro first
    rcases index_cases typeName fields with ⟨filled, whole, _⟩ | ⟨found, flaw, refused⟩
    · cases first with
      | empty => exact absurd rfl filled
      | field _ flaw => exact absurd whole (flaw.not_wellFormed _)
    · rw [refused, flaw.unique first]

theorem index_eq_ok_iff (typeName : String) :
    (∃ byColumn, index typeName fields = .ok byColumn) ↔ fields ≠ [] ∧ WellFormed fields := by
  constructor
  · rintro ⟨byColumn, done⟩
    rcases index_cases typeName fields with ⟨filled, whole, _⟩ | ⟨_, _, refused⟩
    · exact ⟨filled, whole⟩
    · rw [done] at refused
      cases refused
  · rintro ⟨filled, whole⟩
    rcases index_cases typeName fields with ⟨_, _, done⟩ | ⟨_, flaw, _⟩
    · exact done
    · cases flaw with
      | empty => exact absurd rfl filled
      | field _ flaw => exact absurd whole (flaw.not_wellFormed _)

theorem build_eq_ok_iff {metadata : RecordMeta} :
    build typeName fields = .ok metadata ↔
      metadata.typeName = typeName ∧ metadata.fields = fields := by
  unfold build
  split
  · rename_i byColumn indexed
    constructor
    · intro built
      cases built
      exact ⟨rfl, rfl⟩
    · rintro ⟨rfl, rfl⟩
      obtain ⟨typeName, fields, byColumn', indexed'⟩ := metadata
      obtain rfl : byColumn = byColumn' := Except.ok.inj (indexed.symm.trans indexed')
      rfl
  · rename_i fault reported
    constructor
    · intro built
      cases built
    · rintro ⟨rfl, rfl⟩
      rw [metadata.indexed] at reported
      cases reported

theorem build_eq_error_iff {failure : Failure} :
    build typeName fields = .error failure ↔
      ∃ fault, index typeName fields = .error fault ∧ failure = .configuration fault := by
  unfold build
  split
  · rename_i byColumn passed
    simp [passed]
  · rename_i fault reported
    simp [reported, misconfigured, eq_comm]

/-! ### The lookup of a mapped list -/

/-- What the lookup of a record type answers: it is the inverse of the column list, up to
the case of ASCII letters, and finds the identifying columns of a table. -/
structure LooksUpColumns (metadata : RecordMeta) : Prop where
  /-- A name has the index of the column that it is equal to but for case. -/
  index_iff : ∀ name index, metadata.fieldIndex? name = some index ↔
    ∃ column, metadata.columns[index]? = some column ∧ Text.EqualButCase column name
  /-- There is one such column. -/
  single : ∀ (name : String) (first second : Nat) (column other : String),
    metadata.columns[first]? = some column → metadata.columns[second]? = some other →
      Text.EqualButCase column name → Text.EqualButCase other name → first = second
  /-- A character beyond ASCII has to be the same in the column and in the name. -/
  beyond_ascii : ∀ (name : String) (index : Nat) (column : String) (position : Nat)
    (one two : Char), metadata.fieldIndex? name = some index →
      metadata.columns[index]? = some column → column.toList[position]? = some one →
        name.toList[position]? = some two → 127 < one.toNat ∨ 127 < two.toNat → one = two
  /-- A column identifies the rows of a table if an identifier of the table is looked up there. -/
  isId_iff : ∀ (table : Table) (index : Nat) (column : String),
    metadata.columns[index]? = some column →
      (table.isId column = true ↔ ∃ id ∈ table.ids, metadata.fieldIndex? id = some index)

theorem fieldIndex?_iff_column {metadata : RecordMeta} {name : String} {index : Nat} :
    metadata.fieldIndex? name = some index ↔
      ∃ column, metadata.columns[index]? = some column ∧ Text.EqualButCase column name := by
  rw [fieldIndex?_eq_some_iff]
  simp only [Text.sameColumn_iff_equalButCase, columns, List.getElem?_map,
    Option.map_eq_some_iff]
  constructor
  · rintro ⟨definition, held, same⟩
    exact ⟨definition.column, ⟨definition, held, rfl⟩, same⟩
  · rintro ⟨_, ⟨definition, held, rfl⟩, same⟩
    exact ⟨definition, held, same⟩

theorem looksUpColumns (metadata : RecordMeta) : metadata.LooksUpColumns where
  index_iff _ _ := fieldIndex?_iff_column
  single name first second column other held kept same alike := by
    have one := fieldIndex?_iff_column.mpr ⟨column, held, same⟩
    have two := fieldIndex?_iff_column.mpr ⟨other, kept, alike⟩
    exact Option.some.inj (one.symm.trans two)
  beyond_ascii name index column position one two mapped held here there beyond := by
    obtain ⟨other, kept, same⟩ := fieldIndex?_iff_column.mp mapped
    obtain rfl : column = other := Option.some.inj (held.symm.trans kept)
    exact same.eq_of_beyond_ascii here there beyond
  isId_iff table index column held := by
    rw [Table.isId_iff]
    constructor
    · rintro ⟨id, member, same⟩
      rw [Text.sameColumn_comm, Text.sameColumn_iff_equalButCase] at same
      exact ⟨id, member, fieldIndex?_iff_column.mpr ⟨column, held, same⟩⟩
    · rintro ⟨id, member, mapped⟩
      obtain ⟨other, kept, same⟩ := fieldIndex?_iff_column.mp mapped
      obtain rfl : column = other := Option.some.inj (held.symm.trans kept)
      rw [← Text.sameColumn_iff_equalButCase, Text.sameColumn_comm] at same
      exact ⟨id, member, same⟩

end RecordMeta

/-- A field list is mapped exactly when it is not empty and well-formed, and then its lookup
is the inverse of its columns; otherwise its first flaw is reported. -/
theorem field_list_accepted_exactly (typeName : String) (fields : List FieldDef) :
    ((∃ metadata, RecordMeta.build typeName fields = .ok metadata) ↔
      fields ≠ [] ∧ RecordMeta.WellFormed fields) ∧
    (∀ failure, RecordMeta.build typeName fields = .error failure ↔
      ∃ fault, RecordMeta.FirstFlaw typeName fields fault ∧
        failure = .configuration fault) ∧
    ∀ metadata, RecordMeta.build typeName fields = .ok metadata →
      metadata.typeName = typeName ∧ metadata.fields = fields ∧ metadata.LooksUpColumns := by
  refine ⟨?_, ?_, fun metadata built => ?_⟩
  · rw [← RecordMeta.index_eq_ok_iff typeName]
    constructor
    · rintro ⟨metadata, built⟩
      obtain ⟨rfl, rfl⟩ := RecordMeta.build_eq_ok_iff.mp built
      exact ⟨metadata.byColumn, metadata.indexed⟩
    · rintro ⟨byColumn, indexed⟩
      exact ⟨⟨typeName, fields, byColumn, indexed⟩, RecordMeta.build_eq_ok_iff.mpr ⟨rfl, rfl⟩⟩
  · intro failure
    simp only [RecordMeta.build_eq_error_iff, RecordMeta.index_eq_error_iff]
  · obtain ⟨sameType, sameFields⟩ := RecordMeta.build_eq_ok_iff.mp built
    exact ⟨sameType, sameFields, metadata.looksUpColumns⟩

end RecordMapping
