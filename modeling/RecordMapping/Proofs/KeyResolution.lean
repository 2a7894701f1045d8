/-
Module: RecordMapping.Proofs.KeyResolution
Purpose: The values that the key of a delete gives to identifying columns, and when it
  gives them.
Main exports: Value.Zero, Value.Identifies, FirstEntry, Takes, Drawn, DeleteKey.Supplies,
  DeleteKey.resolve_eq_ok_iff
-/
import RecordMapping.DeleteKey
import RecordMapping.Proofs.FlawedCalls

namespace RecordMapping

/-!
The three forms of a key look up the identifying columns in different ways, but all
of them refuse a column without a value and a value that identifies nothing.  What
they find is described here without the checks, and resolving a key is shown to be
finding a value for each column, all of which identify something.
-/

/-! ### Values that identify nothing -/

/-- A number is zero if it is one of the two zeros of its format. -/
theorem Binary.isZero_iff {format : BinaryFormat} {number : Binary format} :
    number.isZero = true ↔ ∃ negative, number = .zero format negative := by
  cases number with
  | nan => simp [isZero, zero]
  | infinite negative => simp [isZero, zero]
  | finite negative code => simp [isZero, zero, Fin.ext_iff]

namespace Value

/-- The cells that hold the zero of their type. -/
inductive Zero : Value → Prop
  | boolean : Zero (.boolean (some false))
  | integer {type : IntType} {number : type.Number} (zero : number.val = 0) :
      Zero (.integer type (some number))
  | float32 (negative : Bool) : Zero (.float32 (some (.zero .single negative)))
  | float64 (negative : Bool) : Zero (.float64 (some (.zero .double negative)))
  | decimal {number : Decimal} (zero : number.mantissa = 0) : Zero (.decimal (some number))
  | varchar : Zero (.varchar (some ""))
  | blob : Zero (.blob (some []))
  | date : Zero (.date (some .first))
  | time : Zero (.time (some .midnight))
  | timestamp : Zero (.timestamp (some .first))
  | uuid : Zero (.uuid (some .nil))

theorem zero_of_isZero {value : Value} (zero : value.isZero = true) : value.Zero := by
  unfold isZero at zero
  split at zero
  · rename_i flag
    obtain rfl : flag = false := by simpa using zero
    exact .boolean
  · exact .integer (by simpa using zero)
  · obtain ⟨negative, rfl⟩ := Binary.isZero_iff.mp zero
    exact .float32 negative
  · obtain ⟨negative, rfl⟩ := Binary.isZero_iff.mp zero
    exact .float64 negative
  · exact .decimal (by simpa [Decimal.isZero] using zero)
  · rename_i text
    obtain rfl : text = "" := by simpa using zero
    exact .varchar
  · obtain rfl := List.isEmpty_iff.mp zero
    exact .blob
  · obtain rfl := eq_of_beq zero
    exact .date
  · obtain rfl := eq_of_beq zero
    exact .time
  · obtain rfl := eq_of_beq zero
    exact .timestamp
  · obtain rfl := eq_of_beq zero
    exact .uuid
  · cases zero

theorem isZero_iff {value : Value} : value.isZero = true ↔ value.Zero := by
  constructor
  · exact zero_of_isZero
  · intro zero
    cases zero with
    | integer zero => simpa [isZero] using zero
    | decimal zero => simpa [isZero, Decimal.isZero] using zero
    | _ => rfl

/-- A cell that is neither a `NULL` nor a zero. -/
def Identifies (value : Value) : Prop := value.isNull = false ∧ ¬ value.Zero

end Value

/-! ### What a key supplies -/

/-- An entry is the first one whose name is accepted. -/
def FirstEntry (accepts : String → Bool) (entries : List (String × Value))
    (entry : String × Value) : Prop :=
  ∃ front behind, entries = front ++ entry :: behind ∧ accepts entry.1 = true ∧
    ∀ earlier ∈ front, accepts earlier.1 = false

/-- The entry of a map that a column takes: the one under its very name, and if there is
none the first under its name in any ASCII case.  The entries stand in the order in which
the map happens to enumerate them. -/
inductive Takes (id : String) (entries : List (String × Value))
    (entry : String × Value) : Prop
  | named (first : FirstEntry (fun name => name == id) entries entry)
  | unnamed (absent : ∀ other ∈ entries, other.1 ≠ id)
      (first : FirstEntry (fun name => Text.sameColumn name id) entries entry)

/-- The values that columns draw from a map one after another; what one column has taken
is gone for those behind it. -/
inductive Drawn : List String → List (String × Value) → List Value → Prop
  | nil {entries : List (String × Value)} : Drawn [] entries []
  | cons {id name : String} {rest : List String} {entries : List (String × Value)}
      {value : Value} {values : List Value} (takes : Takes id entries (name, value))
      (others : Drawn rest (entries.filter fun entry => entry.1 != name) values) :
      Drawn (id :: rest) entries (value :: values)

/-- The value that a record has for a column: that of its first field under the name of
the column in any ASCII case. -/
def RecordHas (fields : List (String × Value)) (id : String) (value : Value) : Prop :=
  ∃ name, FirstEntry (fun name => Text.sameColumn name id) fields (name, value)

/-- The values that a key has for columns: a single value for a single column, those of
the fields of a record, or what the columns draw from a map. -/
inductive DeleteKey.Supplies : DeleteKey → List String → List Value → Prop
  | scalar {id : String} {value : Value} : Supplies (.byScalar value) [id] [value]
  | record {fields : List (String × Value)} {ids : List String} {values : List Value}
      (found : List.Forall₂ (RecordHas fields) ids values) :
      Supplies (.byRecord fields) ids values
  | fields {fields : List (String × Value)} {ids : List String} {values : List Value}
      (drawn : Drawn ids fields values) : Supplies (.byFields fields) ids values

theorem find?_eq_some_iff_firstEntry (accepts : String → Bool)
    {entries : List (String × Value)} {entry : String × Value} :
    (entries.find? fun entry => accepts entry.1) = some entry ↔
      FirstEntry accepts entries entry := by
  rw [List.find?_eq_some_iff_append]
  constructor
  · rintro ⟨accepted, front, behind, split, unlike⟩
    refine ⟨front, behind, split, accepted, fun earlier member => ?_⟩
    simpa using unlike earlier member
  · rintro ⟨front, behind, split, accepted, unlike⟩
    refine ⟨accepted, front, behind, split, fun earlier member => ?_⟩
    simpa using unlike earlier member

namespace FirstEntry

variable {accepts : String → Bool} {entries : List (String × Value)}
  {entry other : String × Value}

theorem accepted (first : FirstEntry accepts entries entry) : accepts entry.1 = true := by
  obtain ⟨_, _, _, accepted, _⟩ := first
  exact accepted

theorem unique (first : FirstEntry accepts entries entry)
    (again : FirstEntry accepts entries other) : entry = other := by
  rw [← find?_eq_some_iff_firstEntry] at first again
  rw [first] at again
  exact Option.some.inj again

/-- The first entry that is accepted is the first one of its own name. -/
theorem named (first : FirstEntry accepts entries entry) :
    FirstEntry (fun name => name == entry.1) entries entry := by
  obtain ⟨front, behind, split, accepted, unlike⟩ := first
  refine ⟨front, behind, split, by simp, fun earlier member => ?_⟩
  have refused := unlike earlier member
  simp only [beq_eq_false_iff_ne]
  intro same
  rw [same, accepted] at refused
  cases refused

end FirstEntry

theorem Drawn.length_eq {ids : List String} {fields : List (String × Value)}
    {values : List Value} (drawn : Drawn ids fields values) : values.length = ids.length := by
  induction drawn with
  | nil => rfl
  | cons _ _ inductionHypothesis => simp [inductionHypothesis]

namespace DeleteKey

variable {id name : String} {value kept : Value} {fields : List (String × Value)}

theorem Supplies.length_eq {key : DeleteKey} {ids : List String} {values : List Value}
    (supplies : key.Supplies ids values) : values.length = ids.length := by
  cases supplies with
  | scalar => rfl
  | record found => exact found.length_eq.symm
  | fields drawn => exact drawn.length_eq

theorem checkId_eq_ok_iff : checkId id value = .ok kept ↔ value.Identifies ∧ kept = value := by
  unfold checkId Value.Identifies
  rw [← Value.isZero_iff]
  by_cases nothing : (value.isNull || value.isZero) = true
  · simp only [nothing, if_true, misconfigured, reduceCtorEq, false_iff, not_and]
    rintro ⟨present, filled⟩
    simp [present, filled] at nothing
  · have identifies : value.isNull = false ∧ value.isZero = false := by
      simpa [not_or] using nothing
    simp [identifies, eq_comm]

/-! ### Keys by records -/

theorem recordValue_eq_ok_iff :
    recordValue fields id = .ok value ↔ RecordHas fields id value ∧ value.Identifies := by
  unfold recordValue RecordHas
  simp only [← find?_eq_some_iff_firstEntry]
  cases fields.find? fun entry => Text.sameColumn entry.1 id with
  | none => simp [misconfigured]
  | some entry =>
      obtain ⟨name, found⟩ := entry
      simp only [Option.some.injEq, Prod.mk.injEq]
      by_cases null : found.isNull = true
      · simp only [null, if_true, misconfigured, reduceCtorEq, false_iff, not_and]
        rintro ⟨_, _, rfl⟩ ⟨present, _⟩
        rw [null] at present
        cases present
      · simp only [null, Bool.false_eq_true, if_false, checkId_eq_ok_iff]
        constructor
        · rintro ⟨identifies, rfl⟩
          exact ⟨⟨name, rfl, rfl⟩, identifies⟩
        · rintro ⟨⟨_, _, rfl⟩, identifies⟩
          exact ⟨identifies, rfl⟩

theorem resolveRecord_eq_ok_iff {ids : List String} {keys : List (String × Value)} :
    resolveRecord fields ids = .ok keys ↔
      ∃ values, List.Forall₂ (RecordHas fields) ids values ∧
        (∀ value ∈ values, value.Identifies) ∧ keys = ids.zip values := by
  induction ids generalizing keys with
  | nil =>
      constructor
      · rintro ⟨⟩
        exact ⟨[], .nil, by simp, rfl⟩
      · rintro ⟨_, found, _, rfl⟩
        cases found
        rfl
  | cons id rest inductionHypothesis =>
      unfold resolveRecord
      constructor
      · intro resolved
        cases first : recordValue fields id with
        | error failure =>
            rw [first] at resolved
            cases resolved
        | ok value =>
            rw [first] at resolved
            obtain ⟨others, behind, rfl⟩ := Outcome.map_eq_ok_iff.mp resolved
            obtain ⟨has, identifies⟩ := recordValue_eq_ok_iff.mp first
            obtain ⟨values, found, all, rfl⟩ := inductionHypothesis.mp behind
            exact ⟨value :: values, .cons has found,
              List.forall_mem_cons.mpr ⟨identifies, all⟩, rfl⟩
      · rintro ⟨_, found, all, rfl⟩
        cases found with
        | @cons _ value _ values has found =>
            obtain ⟨identifies, others⟩ := List.forall_mem_cons.mp all
            have behind := inductionHypothesis.mpr ⟨values, found, others, rfl⟩
            rw [recordValue_eq_ok_iff.mpr ⟨has, identifies⟩, behind]
            rfl

/-! ### Keys by maps -/

/-- A column takes the entry under the name that is found for it. -/
theorem takes_iff :
    Takes id fields (name, value) ↔
      fieldName? fields id = some name ∧
        (fields.find? fun entry => entry.1 == name) = some (name, value) := by
  unfold fieldName?
  rw [find?_eq_some_iff_firstEntry (· == name)]
  by_cases present : (fields.any fun entry => entry.1 == id) = true
  · simp only [present, if_true, Option.some.injEq]
    constructor
    · rintro (first | ⟨absent, _⟩)
      · have itself : name = id := eq_of_beq first.accepted
        exact ⟨itself.symm, itself ▸ first⟩
      · obtain ⟨other, member, same⟩ := List.any_eq_true.mp present
        exact absurd (eq_of_beq same) (absent other member)
    · rintro ⟨rfl, first⟩
      exact .named first
  · have absent : ∀ other ∈ fields, other.1 ≠ id := by
      intro other member same
      exact present (List.any_eq_true.mpr ⟨other, member, by simp [same]⟩)
    simp only [present, Bool.false_eq_true, if_false, Option.map_eq_some_iff]
    constructor
    · rintro (⟨front, behind, rfl, same, _⟩ | ⟨_, first⟩)
      · exact absurd (eq_of_beq same) (absent _ (by simp))
      · exact ⟨⟨_, (find?_eq_some_iff_firstEntry _).mpr first, rfl⟩, first.named⟩
    · rintro ⟨⟨entry, found, rfl⟩, first⟩
      have accepted := (find?_eq_some_iff_firstEntry fun name => Text.sameColumn name id).mp found
      rw [← accepted.named.unique first]
      exact .unnamed absent accepted

/-- The name that is found for a column is that of an entry. -/
theorem exists_takes_of_fieldName? (found : fieldName? fields id = some name) :
    ∃ value, Takes id fields (name, value) := by
  have held : ∃ entry, (fields.find? fun entry => entry.1 == name) = some entry := by
    unfold fieldName? at found
    rw [← Option.isSome_iff_exists, List.find?_isSome]
    split at found
    · rename_i present
      cases found
      exact List.any_eq_true.mp present
    · obtain ⟨entry, first, rfl⟩ := Option.map_eq_some_iff.mp found
      exact ⟨entry, List.mem_of_find?_eq_some first, by simp⟩
  obtain ⟨⟨other, value⟩, first⟩ := held
  obtain rfl : other = name := by simpa using List.find?_some first
  exact ⟨value, takes_iff.mpr ⟨found, first⟩⟩

theorem resolveFields_eq_ok_iff {ids : List String} {keys : List (String × Value)} :
    resolveFields ids fields = .ok keys ↔
      ∃ values, Drawn ids fields values ∧ (∀ value ∈ values, value.Identifies) ∧
        keys = ids.zip values := by
  induction ids generalizing fields keys with
  | nil =>
      constructor
      · rintro ⟨⟩
        exact ⟨[], .nil, by simp, rfl⟩
      · rintro ⟨_, drawn, _, rfl⟩
        cases drawn
        rfl
  | cons id rest inductionHypothesis =>
      unfold resolveFields
      constructor
      · intro resolved
        cases named : fieldName? fields id with
        | none =>
            rw [named] at resolved
            cases resolved
        | some name =>
            obtain ⟨value, takes⟩ := exists_takes_of_fieldName? named
            simp only [named, (takes_iff.mp takes).2, Option.map_some, Option.getD_some]
              at resolved
            cases checked : checkId id value with
            | error failure =>
                rw [checked] at resolved
                cases resolved
            | ok kept =>
                obtain ⟨identifies, rfl⟩ := checkId_eq_ok_iff.mp checked
                rw [checked] at resolved
                obtain ⟨others, behind, rfl⟩ := Outcome.map_eq_ok_iff.mp resolved
                obtain ⟨values, drawn, all, rfl⟩ := inductionHypothesis.mp behind
                exact ⟨_ :: values, .cons takes drawn,
                  List.forall_mem_cons.mpr ⟨identifies, all⟩, rfl⟩
      · rintro ⟨_, drawn, all, rfl⟩
        cases drawn with
        | @cons _ name _ _ value values takes drawn =>
            obtain ⟨identifies, others⟩ := List.forall_mem_cons.mp all
            obtain ⟨named, held⟩ := takes_iff.mp takes
            have behind := inductionHypothesis.mpr ⟨values, drawn, others, rfl⟩
            simp only [named, held, Option.map_some, Option.getD_some,
              checkId_eq_ok_iff.mpr ⟨identifies, rfl⟩, behind]
            rfl

/-- A key is resolved if the table is in order and the key has for each identifying
column a value that identifies something; these are then the values. -/
theorem resolve_eq_ok_iff {key : DeleteKey} {table : Table} {keys : List (String × Value)} :
    key.resolve table = .ok keys ↔
      table.validate = .ok () ∧ ∃ values, key.Supplies table.ids values ∧
        (∀ value ∈ values, value.Identifies) ∧ keys = table.ids.zip values := by
  unfold resolve
  cases valid : table.validate with
  | error failure => simp [bind, Except.bind]
  | ok _ =>
      simp only [bind, Except.bind, true_and]
      cases key with
      | byScalar value =>
          dsimp only
          constructor
          · intro resolved
            split at resolved
            · rename_i id single
              obtain ⟨kept, checked, rfl⟩ := Outcome.map_eq_ok_iff.mp resolved
              obtain ⟨identifies, rfl⟩ := checkId_eq_ok_iff.mp checked
              rw [single]
              exact ⟨[_], .scalar, by simpa using identifies, rfl⟩
            · cases resolved
          · rintro ⟨values, supplied, all, rfl⟩
            generalize table.ids = ids at supplied ⊢
            cases supplied with
            | scalar =>
                have identifies : value.Identifies := all value (by simp)
                simp only [checkId_eq_ok_iff.mpr ⟨identifies, rfl⟩]
                rfl
      | byRecord fields =>
          rw [resolveRecord_eq_ok_iff]
          constructor
          · rintro ⟨values, found, rest⟩
            exact ⟨values, .record found, rest⟩
          · rintro ⟨values, supplied, rest⟩
            cases supplied with
            | record found => exact ⟨values, found, rest⟩
      | byFields fields =>
          rw [resolveFields_eq_ok_iff]
          constructor
          · rintro ⟨values, drawn, rest⟩
            exact ⟨values, .fields drawn, rest⟩
          · rintro ⟨values, supplied, rest⟩
            cases supplied with
            | fields drawn => exact ⟨values, drawn, rest⟩

end DeleteKey

end RecordMapping
