/-
Module: RecordMapping.Proofs.InsertReading
Purpose: The text of an insert, read by its dialect, says what was planned and
  nothing else, whatever the names in it are.
Main exports: Dialect.known, Dialect.Legible, Grammar.InsertText, Grammar.readInsert,
  Grammar.planned, insert_reads_back
-/
import RecordMapping.Proofs.StatementGrammar
import RecordMapping.Statement.Insertion

namespace RecordMapping

/-!
Names of tables and columns are chosen by the caller and may hold quotes,
brackets, line ends and placeholders.  The grammar below finds the pieces of an
insert by the fixed texts in front of them and knows neither the names nor
whether a piece was written, so that a name that reached beyond its quotes would
change what is read.
-/

namespace Dialect

/-- The dialects that are spoken. -/
def known : List Dialect := [postgres, sqlite, mysql, sqlserver, withoutIds]

/-- What keeps the pieces of an insert apart: nothing that stands behind an
identifier continues its closing quote, the body without columns is one of two
fixed texts, and quotes open unlike the empty column list does. -/
structure Legible (dialect : Dialect) : Prop where
  closing : dialect.quotes.closing ∉ [',', ')', '\n', ' ']
  opening : dialect.quotes.opening ≠ ')'
  defaults : dialect.defaultValues = standardDefaultValues ∨
    dialect.defaultValues = " () VALUES ()"
  standard : dialect.insertMethod = .output → dialect.defaultValues = standardDefaultValues

theorem legible_of_known {dialect : Dialect} (spoken : dialect ∈ known) : dialect.Legible := by
  simp only [known, List.mem_cons, List.not_mem_nil, or_false] at spoken
  rcases spoken with rfl | rfl | rfl | rfl | rfl <;>
    exact ⟨by decide, by decide, by decide, by decide⟩

theorem placeholder_ne_empty (dialect : Dialect) (index : Nat) :
    dialect.placeholder index ≠ "" := by
  unfold placeholder
  cases dialect.placeholders with
  | mark => simp
  | numbered lead =>
      intro blank
      exact Nat.repr_ne_empty (String.append_eq_empty_iff.mp blank).2

end Dialect

namespace Grammar

/-! ### Inserts -/

/-- What the text of an insert says.  A clause that is not there says nothing,
and without parameters the default values are inserted. -/
structure InsertText where
  table : String
  columns : List String
  /-- The columns asked for in front of the values. -/
  output : Option (List String)
  /-- The indexes of the parameters. -/
  parameters : Option (List Nat)
  /-- The columns asked for at the end. -/
  returning : Option (List String)
deriving Repr, DecidableEq

/-- The columns of an insert; an opening quote tells a list of columns from the
empty one of an insert of default values. -/
def columnList (dialect : Dialect) : Reader (List String) := do
  if ← begins (" (" ++ String.singleton dialect.quotes.opening) then
    require " ("
    let columns ← list ", " fun _ => identifier dialect
    require ")"
    return columns
  else return []

/-- A clause that asks for columns, each one behind a qualification. -/
def askedColumns (dialect : Dialect) (lead qualification : String) :
    Reader (Option (List String)) := do
  if ← skips lead then
    let columns ← list ", " fun _ => do
      require qualification
      identifier dialect
    return some columns
  else return none

/-- The values of an insert: one placeholder after the other, or the default
values if there are no columns. -/
def insertedValues (dialect : Dialect) (columns : List String) :
    Reader (Option (List Nat)) := do
  if columns.isEmpty then
    require dialect.defaultValues
    return none
  else
    require "\nVALUES ("
    let indexes ← list ", " (placeholder dialect)
    require ")"
    return some indexes

/-- An insert of a dialect. -/
def insertion (dialect : Dialect) : Reader InsertText := do
  require "INSERT INTO "
  let table ← identifier dialect
  let columns ← columnList dialect
  let output ← askedColumns dialect "\nOUTPUT " "INSERTED."
  let parameters ← insertedValues dialect columns
  let returning ← askedColumns dialect "\nRETURNING " ""
  return ⟨table, columns, output, parameters, returning⟩

/-- A text that is an insert from its beginning to its end. -/
def readInsert (dialect : Dialect) (text : String) : Option InsertText :=
  match insertion dialect text.toList with
  | some (insert, []) => some insert
  | _ => none

/-- The columns that an insert asks for by a clause: none, unless this is how the
dialect asks. -/
def asked (dialect : Dialect) (method : InsertMethod) (returning : List String) :
    Option (List String) :=
  if dialect.insertMethod = method ∧ returning ≠ [] then some returning else none

/-- What an insert into a table is to say. -/
def planned (dialect : Dialect) (table : Table) (columns returning : List String) :
    InsertText where
  table := table.name
  columns := columns
  output := asked dialect .output returning
  parameters := if columns.isEmpty then none else some (List.range columns.length)
  returning := asked dialect .returning returning

/-! ### The pieces of an insert -/

def columnsText (dialect : Dialect) (columns : List String) : String :=
  if columns.isEmpty then "" else " (" ++ InsertPlan.identifiers dialect columns ++ ")"

def askedText (dialect : Dialect) (method : InsertMethod) (lead qualification : String)
    (returning : List String) : String :=
  if dialect.insertMethod = method ∧ returning ≠ [] then
    lead ++ Text.separated ", "
      (returning.map fun column => qualification ++ dialect.identifier column)
  else ""

def valuesText (dialect : Dialect) (columns : List String) : String :=
  if columns.isEmpty then dialect.defaultValues
  else
    "\nVALUES (" ++
      Text.separated ", " ((List.range columns.length).map dialect.placeholder) ++ ")"

variable {dialect : Dialect}

theorem text_eq_pieces (legible : dialect.Legible) (table : Table)
    (columns returning : List String) :
    InsertPlan.text dialect table columns returning =
      "INSERT INTO " ++ (dialect.identifier table.name ++ (columnsText dialect columns ++
        (askedText dialect .output "\nOUTPUT " "INSERTED." returning ++
          (valuesText dialect columns ++
            askedText dialect .returning "\nRETURNING " "" returning)))) := by
  have body : (if dialect.insertMethod = .output then Dialect.standardDefaultValues
      else dialect.defaultValues) = dialect.defaultValues := by
    split
    · rename_i output
      exact (legible.standard output).symm
    · rfl
  unfold InsertPlan.text
  rw [body]
  simp only [columnsText, askedText, valuesText, InsertPlan.identifiers, String.append_assoc,
    String.empty_append]

/-! ### What stands behind the pieces -/

/-- A text does not begin with another one if neither of the two begins with the
other. -/
theorem not_begins {lead other rest : List Char} (present : lead <+: rest)
    (apart : ¬ lead <+: other ∧ ¬ other <+: lead) : ¬ other <+: rest := by
  intro begun
  rcases List.prefix_or_prefix_of_prefix present begun with first | second
  · exact apart.1 first
  · exact apart.2 second

/-- What stands behind the clause in front of the values begins the values. -/
def BeginsValues (dialect : Dialect) (rest : List Char) : Prop :=
  "\nVALUES (".toList <+: rest ∨ dialect.defaultValues.toList <+: rest

/-- What stands behind the columns begins that clause or the values. -/
def BeginsOutput (dialect : Dialect) (rest : List Char) : Prop :=
  "\nOUTPUT ".toList <+: rest ∨ BeginsValues dialect rest

theorem begins_valuesText (columns : List String) (rest : List Char) :
    BeginsValues dialect ((valuesText dialect columns).toList ++ rest) := by
  unfold valuesText
  split
  · exact .inr (List.prefix_append _ _)
  · left
    simp only [String.toList_append, List.append_assoc]
    exact List.prefix_append _ _

theorem begins_askedText (columns returning : List String) (rest : List Char) :
    BeginsOutput dialect
      ((askedText dialect .output "\nOUTPUT " "INSERTED." returning).toList ++
        ((valuesText dialect columns).toList ++ rest)) := by
  unfold askedText
  split
  · left
    simp only [String.toList_append, List.append_assoc]
    exact List.prefix_append _ _
  · right
    simpa using begins_valuesText columns rest

/-- Neither of the bodies continues an identifier, a list, or what stands in front
of the values. -/
theorem BeginsValues.clear (legible : dialect.Legible) {rest : List Char}
    (begun : BeginsValues dialect rest) :
    EndsName dialect rest ∧ ¬ ", ".toList <+: rest ∧ ¬ "\nOUTPUT ".toList <+: rest ∧
      ¬ (" (" ++ String.singleton dialect.quotes.opening).toList <+: rest := by
  have openedList : (" (" ++ String.singleton dialect.quotes.opening).toList =
      [' ', '(', dialect.quotes.opening] := by simp
  rw [openedList]
  have unlike := legible.opening
  obtain ⟨lead, kind, present⟩ : ∃ lead, (lead = "\nVALUES (" ∨ lead = "\nDEFAULT VALUES" ∨
      lead = " () VALUES ()") ∧ lead.toList <+: rest := by
    rcases begun with values | default
    · exact ⟨_, .inl rfl, values⟩
    · exact ⟨_, .inr legible.defaults, default⟩
  rcases kind with rfl | rfl | rfl
  all_goals
    exact ⟨endsName_of_begins legible.closing present (by decide), not_begins present (by decide),
      not_begins present (by decide), not_begins present (by simp [unlike, Ne.symm unlike])⟩

theorem BeginsOutput.clear (legible : dialect.Legible) {rest : List Char}
    (begun : BeginsOutput dialect rest) :
    EndsName dialect rest ∧
      ¬ (" (" ++ String.singleton dialect.quotes.opening).toList <+: rest := by
  rcases begun with output | values
  · exact ⟨endsName_of_begins legible.closing output (by decide), not_begins output (by simp)⟩
  · obtain ⟨name, _, _, columns⟩ := values.clear legible
    exact ⟨name, columns⟩

/-! ### The pieces -/

/-- Names between commas are read back, each by a reader of its own kind of
item. -/
theorem reads_columns (legible : dialect.Legible) {columns : List String}
    (nonempty : columns ≠ []) {item : Reader String} {write : String → String}
    (written : ∀ column, write column ≠ "")
    (reads : ∀ column, Reads item (write column) column (EndsName dialect)) :
    Reads (list ", " fun _ => item) (Text.separated ", " (columns.map write)) columns
      fun rest => EndsName dialect rest ∧ ¬ ", ".toList <+: rest := by
  have allWritten : ∀ text ∈ columns.map write, text ≠ "" := by
    intro text member
    obtain ⟨column, _, rfl⟩ := List.mem_map.mp member
    exact written column
  rw [Text.separated_eq_intercalate allWritten]
  refine reads_list (by decide) ?_ nonempty fun index inside => reads columns[index]
  intro rest
  exact endsName_of_begins legible.closing (List.prefix_append _ _) (by decide)

theorem reads_columnList (legible : dialect.Legible) (columns : List String) :
    Reads (columnList dialect) (columnsText dialect columns) columns
      (BeginsOutput dialect) := by
  unfold columnsText
  cases columns with
  | nil =>
      have absent : Reads (columnList dialect) ("" ++ "") [] (BeginsOutput dialect) :=
        (reads_begins_false _).bind (reads_pure []) fun _ begun => (begun.clear legible).2
      simpa using absent
  | cons first others =>
      have names := reads_columns legible (List.cons_ne_nil first others)
        dialect.quotes.quote_ne_empty (reads_identifier dialect)
      have present : Reads (columnList dialect)
          ("" ++ (" (" ++ (InsertPlan.identifiers dialect (first :: others) ++ ")")))
          (first :: others) fun _ => True := by
        refine (reads_begins_true _).bind ?_ ?_
        · refine (reads_require " (").bind ?_ fun _ _ => trivial
          refine names.bind ((reads_require ")").map fun _ => first :: others) ?_
          intro rest _
          exact ⟨endsName_of_begins legible.closing (List.prefix_append _ _) (by decide), by simp⟩
        · intro rest _
          simp [InsertPlan.identifiers, Text.separated, Text.separatedAfter,
            Dialect.identifier, Text.Quotes.quote, Text.Quotes.quoteList]
      simpa [String.append_assoc] using present.weaken fun _ _ => trivial

/-- A clause is written if this is how the dialect asks for columns and there are
columns to ask for. -/
theorem reads_askedColumns (legible : dialect.Legible) (method : InsertMethod)
    (lead qualification : String) (returning : List String) :
    Reads (askedColumns dialect lead qualification)
      (askedText dialect method lead qualification returning) (asked dialect method returning)
      fun rest => EndsName dialect rest ∧ ¬ ", ".toList <+: rest ∧ ¬ lead.toList <+: rest := by
  unfold askedText asked
  by_cases asks : dialect.insertMethod = method ∧ returning ≠ []
  · rw [if_pos asks, if_pos asks]
    have written : ∀ column, qualification ++ dialect.identifier column ≠ "" := by
      intro column blank
      exact dialect.quotes.quote_ne_empty column (String.append_eq_empty_iff.mp blank).2
    have item : ∀ column,
        Reads (do require qualification; identifier dialect)
          (qualification ++ dialect.identifier column) column (EndsName dialect) := by
      intro column
      exact (reads_require qualification).bind (reads_identifier dialect column)
        fun _ _ => trivial
    have names := reads_columns legible asks.2 written item
    have present : Reads (askedColumns dialect lead qualification)
        (lead ++ Text.separated ", "
          (returning.map fun column => qualification ++ dialect.identifier column))
        (some returning) fun rest => EndsName dialect rest ∧ ¬ ", ".toList <+: rest :=
      (reads_skips_true lead).bind (names.map some) fun _ _ => trivial
    exact present.weaken fun _ clear => ⟨clear.1, clear.2.1⟩
  · rw [if_neg asks, if_neg asks]
    have absent : Reads (askedColumns dialect lead qualification) ("" ++ "") none
        fun rest => ¬ lead.toList <+: rest :=
      (reads_skips_false lead).bind (reads_pure none) fun _ clear => clear
    exact absent.weaken fun _ clear => clear.2.2

/-- The placeholders of an insert are read as the indexes of its parameters, in
order. -/
theorem reads_insertedValues (columns : List String) :
    Reads (insertedValues dialect columns) (valuesText dialect columns)
      (if columns.isEmpty then none else some (List.range columns.length))
      fun _ => True := by
  unfold valuesText
  cases columns with
  | nil => exact (reads_require dialect.defaultValues).map fun _ => none
  | cons first others =>
      have written : ∀ text ∈ (List.range (first :: others).length).map dialect.placeholder,
          text ≠ "" := by
        intro text member
        obtain ⟨index, _, rfl⟩ := List.mem_map.mp member
        exact dialect.placeholder_ne_empty index
      have indexes : Reads (list ", " (placeholder dialect))
          (", ".intercalate ((List.range (first :: others).length).map dialect.placeholder))
          (List.range (first :: others).length)
          fun rest => EndsNumber rest ∧ ¬ ", ".toList <+: rest := by
        refine reads_list (by decide) (by simp [EndsNumber]) (by simp) ?_
        intro index inside
        rw [List.getElem_range]
        exact reads_placeholder dialect index
      have values : Reads (insertedValues dialect (first :: others))
          ("\nVALUES (" ++ (", ".intercalate
            ((List.range (first :: others).length).map dialect.placeholder) ++ ")"))
          (some (List.range (first :: others).length)) fun _ => True := by
        refine (reads_require "\nVALUES (").bind ?_ fun _ _ => trivial
        refine indexes.bind ((reads_require ")").map fun _ => _) ?_
        intro rest _
        exact ⟨by simp [EndsNumber], by simp⟩
      rw [Text.separated_eq_intercalate written]
      simpa [String.append_assoc] using values

/-- An insert is read piece by piece, and its end is where the text ends. -/
theorem reads_insertion (legible : dialect.Legible) (table : Table)
    (columns returning : List String) :
    Reads (insertion dialect) (InsertPlan.text dialect table columns returning)
      (planned dialect table columns returning) fun rest => rest = [] := by
  have asksBehind : Reads (askedColumns dialect "\nRETURNING " "")
      (askedText dialect .returning "\nRETURNING " "" returning)
      (asked dialect .returning returning) fun rest => rest = [] :=
    (reads_askedColumns legible .returning "\nRETURNING " "" returning).weaken (by
      rintro _ rfl
      simp [EndsName])
  rw [text_eq_pieces legible]
  refine (reads_require "INSERT INTO ").bind ?_ fun _ _ => trivial
  refine (reads_identifier dialect table.name).bind ?_ ?_
  · refine (reads_columnList legible columns).bind ?_ ?_
    · refine (reads_askedColumns legible .output "\nOUTPUT " "INSERTED." returning).bind ?_ ?_
      · refine (reads_insertedValues columns).bind ?_ fun _ _ => trivial
        exact asksBehind.map fun found =>
          { planned dialect table columns returning with returning := found }
      · intro rest _
        rw [String.toList_append, List.append_assoc]
        obtain ⟨name, separator, output, _⟩ := (begins_valuesText columns _).clear legible
        exact ⟨name, separator, output⟩
    · intro rest _
      simp only [String.toList_append, List.append_assoc]
      exact begins_askedText columns returning _
  · intro rest _
    simp only [String.toList_append, List.append_assoc]
    unfold columnsText
    split
    · exact ((begins_askedText columns returning _).clear legible).1
    · simp only [String.toList_append, List.append_assoc]
      exact endsName_of_begins legible.closing (List.prefix_append _ _) (by decide)

theorem readInsert_text (legible : dialect.Legible) (table : Table)
    (columns returning : List String) :
    readInsert dialect (InsertPlan.text dialect table columns returning) =
      some (planned dialect table columns returning) := by
  have whole := reads_insertion legible table columns returning [] rfl
  rw [List.append_nil] at whole
  simp only [readInsert, whole]

end Grammar

namespace InsertPlan.Plans

variable {dialect : Dialect} {table : Table} {metadata : RecordMeta} {values : List Value}
  {plan : InsertPlan}

theorem parameters_length (plans : plan.Plans dialect table metadata values) :
    plan.statement.parameters.length = plan.columns.length := by
  rw [plans.parameters, plans.columns, List.length_map, List.length_map]

/-- The columns asked for can be told from the two clauses, since a dialect that
has neither asks for none. -/
theorem returning_of_asked (plans : plan.Plans dialect table metadata values) :
    ((Grammar.asked dialect .output plan.returning).or
      (Grammar.asked dialect .returning plan.returning)).getD [] = plan.returning := by
  cases answers : dialect.insertMethod.returnsRow with
  | false =>
      rw [plans.returning_eq_nil answers]
      simp [Grammar.asked]
  | true =>
      unfold Grammar.asked
      cases method : dialect.insertMethod with
      | returning => by_cases none : plan.returning = [] <;> simp [none]
      | output => by_cases none : plan.returning = [] <;> simp [none]
      | lastInsertId => simp [method, InsertMethod.returnsRow] at answers
      | noIdRetrieval => simp [method, InsertMethod.returnsRow] at answers

theorem readInsert_sql (plans : plan.Plans dialect table metadata values)
    (legible : dialect.Legible) :
    Grammar.readInsert dialect plan.statement.sql =
      some (Grammar.planned dialect table plan.columns plan.returning) := by
  rw [plans.sql]
  exact Grammar.readInsert_text legible table plan.columns plan.returning

end InsertPlan.Plans

/-- Every insert is planned, and its text, read by the grammar of its dialect,
is the table, the columns, one placeholder for each parameter and the columns
asked for.  So two inserts of the same text agree in all of them. -/
theorem insert_reads_back {dialect : Dialect} (spoken : dialect ∈ Dialect.known) :
    (∀ (table : Table) (metadata : RecordMeta) (values : List Value),
      table.validate = .ok () → values.length = metadata.fields.length →
      ∃ plan, dialect.insert table metadata values = .ok plan ∧
        plan.statement.parameters.length = plan.columns.length ∧
        Grammar.readInsert dialect plan.statement.sql = some {
          table := table.name
          columns := plan.columns
          output := if dialect.insertMethod = .output ∧ plan.returning ≠ []
            then some plan.returning else none
          parameters := if plan.columns = [] then none
            else some (List.range plan.columns.length)
          returning := if dialect.insertMethod = .returning ∧ plan.returning ≠ []
            then some plan.returning else none } ∧
        (dialect.insertMethod.returnsRow = false → plan.returning = [])) ∧
    (∀ table table' metadata metadata' values values' plan plan',
      dialect.insert table metadata values = .ok plan →
      dialect.insert table' metadata' values' = .ok plan' →
      plan.statement.sql = plan'.statement.sql →
      table.name = table'.name ∧ plan.columns = plan'.columns ∧
        plan.returning = plan'.returning ∧
        plan.statement.parameters.length = plan'.statement.parameters.length) := by
  have legible := Dialect.legible_of_known spoken
  constructor
  · intro table metadata values valid width
    obtain ⟨plan, planned, plans⟩ := dialect.exists_insert valid width
    refine ⟨plan, planned, plans.parameters_length, ?_, plans.returning_eq_nil⟩
    rw [plans.readInsert_sql legible]
    simp only [Grammar.planned, Grammar.asked, List.isEmpty_iff]
  · intro table table' metadata metadata' values values' plan plan' planned planned' same
    obtain ⟨_, _, plans⟩ := Dialect.insert_eq_ok_iff.mp planned
    obtain ⟨_, _, plans'⟩ := Dialect.insert_eq_ok_iff.mp planned'
    have texts : Grammar.planned dialect table plan.columns plan.returning =
        Grammar.planned dialect table' plan'.columns plan'.returning := by
      have read := plans.readInsert_sql legible
      rw [same, plans'.readInsert_sql legible] at read
      exact (Option.some.inj read).symm
    have columns : plan.columns = plan'.columns := congrArg Grammar.InsertText.columns texts
    refine ⟨congrArg Grammar.InsertText.table texts, columns, ?_, ?_⟩
    · rw [← plans.returning_of_asked, ← plans'.returning_of_asked]
      exact congrArg (fun text => (text.output.or text.returning).getD []) texts
    · rw [plans.parameters_length, plans'.parameters_length, columns]

/-- A table and columns named to break out of their quotes: the brackets are
doubled, and what looks like the rest of an insert stays part of a name. -/
theorem insert_reads_back_hostile_names :
    Dialect.sqlserver ∈ Dialect.known ∧
    ∃ plan,
      Dialect.sqlserver.insert ⟨"a] ([b])\nVALUES (@p1", ["key]", "KEY]"]⟩
        ⟨"Odd", [⟨"key", "Key]", false, false, true⟩, ⟨"mark", "?, [@p9", false, false, true⟩],
          _, rfl⟩
        [.ofInt .int64 0, .varchar (some "x")] = .ok plan ∧
      Grammar.readInsert .sqlserver plan.statement.sql =
        some ⟨"a] ([b])\nVALUES (@p1", ["?, [@p9"], some ["Key]", "Key]"], some [0], none⟩ := by
  have spoken : Dialect.sqlserver ∈ Dialect.known := by decide
  obtain ⟨plan, planned, _, read, _⟩ := (insert_reads_back spoken).1
    ⟨"a] ([b])\nVALUES (@p1", ["key]", "KEY]"]⟩
    ⟨"Odd", [⟨"key", "Key]", false, false, true⟩, ⟨"mark", "?, [@p9", false, false, true⟩],
      _, rfl⟩
    [.ofInt .int64 0, .varchar (some "x")] rfl rfl
  obtain ⟨_, _, plans⟩ := Dialect.insert_eq_ok_iff.mp planned
  have columns : plan.columns = ["?, [@p9"] := plans.columns.trans rfl
  have returning : plan.returning = ["Key]", "Key]"] := plans.returning.trans rfl
  refine ⟨spoken, plan, planned, ?_⟩
  rw [read, columns, returning]
  rfl

end RecordMapping
