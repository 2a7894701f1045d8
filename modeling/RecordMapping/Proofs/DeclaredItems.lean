/-
Module: RecordMapping.Proofs.DeclaredItems
Purpose: What the attributes of a declared field amount to, however their items are spread
  over them.
Main exports: ownItems, Respread, ColumnFlaw, MapsTo, AliasFlaw, JoinsAs,
  readAttributes_eq_foldlM, attributes_read_as_items
-/
import RecordMapping.Record.Declaration

namespace RecordMapping

/-!
Attributes are read by a loop over them with a loop over the items of each, and either loop
ends at the first item that cannot be read.  The two make one pass over the items that
count, in order, so nothing depends on which attribute an item stands in.  What a pass
refuses does not depend on what it has read before; what it keeps is the last text of its
kind, and of an item without a value only whether it occurred.
-/

/-! ### Items and attributes -/

namespace AttributeItem

/-- An item that sets a name to a text. -/
def setting (name text : String) : AttributeItem := ⟨[name], some (.text text)⟩

/-- The item that has a field stored as JSON. -/
def json : AttributeItem := ⟨["json"], none⟩

/-- The text that an item sets a name to. -/
def text? (name : String) : AttributeItem → Option String
  | ⟨[path], some (.text text)⟩ => if path = name then some text else none
  | _ => none

@[simp] theorem text?_setting (name text : String) :
    (setting name text).text? name = some text := by
  simp [setting, text?]

@[simp] theorem text?_json (name : String) : json.text? name = none := rfl

@[simp] theorem json_ne_setting (name text : String) : json ≠ setting name text := by
  simp [json, setting]

theorem text?_eq_some_iff {name text : String} {item : AttributeItem} :
    item.text? name = some text ↔ item = setting name text := by
  constructor
  · intro found
    unfold text? at found
    split at found
    · next path content =>
        split at found
        · next same =>
            subst same
            rw [Option.some.inj found, setting]
        · cases found
    · cases found
  · rintro rfl
    exact text?_setting name text

end AttributeItem

/-- The texts that items set a name to, in order. -/
def textsOf (name : String) (items : List AttributeItem) : List String :=
  items.filterMap (·.text? name)

@[simp] theorem textsOf_nil (name : String) : textsOf name [] = [] := rfl

@[simp] theorem textsOf_setting_cons (name text : String) (rest : List AttributeItem) :
    textsOf name (.setting name text :: rest) = text :: textsOf name rest := by
  simp [textsOf]

@[simp] theorem textsOf_json_cons (name : String) (rest : List AttributeItem) :
    textsOf name (.json :: rest) = textsOf name rest := rfl

theorem textsOf_eq_nil_iff {name : String} {items : List AttributeItem} :
    textsOf name items = [] ↔ ∀ text, AttributeItem.setting name text ∉ items := by
  constructor
  · intro none text member
    have found := List.filterMap_eq_nil_iff.mp none _ member
    rw [AttributeItem.text?_setting] at found
    cases found
  · intro absent
    refine List.filterMap_eq_nil_iff.mpr fun item member => ?_
    refine Option.eq_none_iff_forall_ne_some.mpr fun text found => ?_
    exact absent text (AttributeItem.text?_eq_some_iff.mp found ▸ member)

/-- The items of the attributes that count, in order. -/
def ownItems : List Attribute → List AttributeItem
  | [] => []
  | tag :: rest => (if tag.path = Attribute.ownPath then tag.items else []) ++ ownItems rest

/-- An attribute of this library. -/
def Attribute.own (items : List AttributeItem) : Attribute := ⟨Attribute.ownPath, items⟩

@[simp] theorem ownItems_append (front back : List Attribute) :
    ownItems (front ++ back) = ownItems front ++ ownItems back := by
  induction front with
  | nil => rfl
  | cons tag rest inductionHypothesis =>
      rw [List.cons_append, ownItems, ownItems, inductionHypothesis, List.append_assoc]

@[simp] theorem ownItems_own (items : List AttributeItem) (rest : List Attribute) :
    ownItems (.own items :: rest) = items ++ ownItems rest := by
  simp [ownItems, Attribute.own]

theorem ownItems_of_foreign {tag : Attribute} (foreign : tag.path ≠ Attribute.ownPath)
    (rest : List Attribute) : ownItems (tag :: rest) = ownItems rest := by
  simp [ownItems, foreign]

section Reading

variable {σ : Type} {take : σ → AttributeItem → Except DeclarationFault σ}
  {flaw : AttributeItem → DeclarationFault → Prop}

/-- The two loops make one pass over the items that count. -/
theorem readAttributes_eq_foldlM (start : σ) (attributes : List Attribute) :
    readAttributes take start attributes = (ownItems attributes).foldlM take start := by
  induction attributes generalizing start with
  | nil => rfl
  | cons tag rest inductionHypothesis =>
      have step : readAttributes take start (tag :: rest) =
          Attribute.extend take start tag >>= fun state => readAttributes take state rest := rfl
      rw [step, funext inductionHypothesis]
      by_cases own : tag.path = Attribute.ownPath
      · rw [Attribute.extend, if_pos own, ownItems, if_pos own, List.foldlM_append]
      · rw [Attribute.extend, if_neg own, ownItems_of_foreign own]
        rfl

/-- A pass ends at the first item that is refused. -/
theorem foldlM_eq_error_iff
    (refuses : ∀ state item fault, take state item = .error fault ↔ flaw item fault)
    (start : σ) {items : List AttributeItem} {fault : DeclarationFault} :
    items.foldlM take start = .error fault ↔
      ∃ front item back, items = front ++ item :: back ∧
        (∀ earlier ∈ front, ∀ other, ¬ flaw earlier other) ∧ flaw item fault := by
  induction items generalizing start with
  | nil => simp [pure, Except.pure]
  | cons item rest inductionHypothesis =>
      cases taken : take start item with
      | error found =>
          have flawed := (refuses start item found).mp taken
          rw [List.foldlM_cons, taken]
          constructor
          · intro same
            obtain rfl : found = fault := Except.error.inj same
            exact ⟨[], item, rest, rfl, fun _ member => absurd member List.not_mem_nil, flawed⟩
          · rintro ⟨front, other, back, split, passed, refused⟩
            cases front with
            | nil =>
                obtain ⟨rfl, rfl⟩ := List.cons.inj split
                exact taken.symm.trans ((refuses start item fault).mpr refused)
            | cons first front =>
                obtain ⟨rfl, -⟩ := List.cons.inj split
                exact absurd flawed (passed item List.mem_cons_self found)
      | ok state =>
          have sound : ∀ other, ¬ flaw item other := by
            intro other flawed
            rw [(refuses start item other).mpr flawed] at taken
            cases taken
          rw [List.foldlM_cons, taken]
          refine Iff.trans (inductionHypothesis state) ⟨?_, ?_⟩
          · rintro ⟨front, other, back, rfl, passed, refused⟩
            exact ⟨item :: front, other, back, rfl,
              List.forall_mem_cons.mpr ⟨sound, passed⟩, refused⟩
          · rintro ⟨front, other, back, split, passed, refused⟩
            cases front with
            | nil =>
                obtain ⟨rfl, rfl⟩ := List.cons.inj split
                exact absurd refused (sound fault)
            | cons first front =>
                obtain ⟨rfl, rfl⟩ := List.cons.inj split
                exact ⟨front, other, back, rfl, (List.forall_mem_cons.mp passed).2, refused⟩

/-- Either no item of a list is refused, or there is a first one that is. -/
theorem flawless_or_flawed (flaw : AttributeItem → DeclarationFault → Prop)
    (items : List AttributeItem) :
    (∀ item ∈ items, ∀ fault, ¬ flaw item fault) ∨
      ∃ front item back fault, items = front ++ item :: back ∧
        (∀ earlier ∈ front, ∀ other, ¬ flaw earlier other) ∧ flaw item fault := by
  induction items with
  | nil => exact .inl fun _ member => absurd member List.not_mem_nil
  | cons head rest inductionHypothesis =>
      by_cases first : ∃ fault, flaw head fault
      · obtain ⟨fault, found⟩ := first
        exact .inr ⟨[], head, rest, fault, rfl, fun _ member => absurd member List.not_mem_nil,
          found⟩
      · have sound : ∀ fault, ¬ flaw head fault := fun fault found => first ⟨fault, found⟩
        rcases inductionHypothesis with flawless | ⟨front, item, back, fault, rfl, passed, found⟩
        · exact .inl (List.forall_mem_cons.mpr ⟨sound, flawless⟩)
        · exact .inr ⟨head :: front, item, back, fault, rfl,
            List.forall_mem_cons.mpr ⟨sound, passed⟩, found⟩

end Reading

/-! ### Items spread otherwise -/

/-- Attributes that say the same as others: items are split over more attributes or put
together, attributes without items of this library come and go, and a loose item is moved
past another or repeated. -/
inductive Respread (loose : List AttributeItem) : List Attribute → List Attribute → Prop
  | refl (attributes : List Attribute) : Respread loose attributes attributes
  | symm {first second : List Attribute} (step : Respread loose first second) :
      Respread loose second first
  | trans {first second third : List Attribute} (one : Respread loose first second)
      (two : Respread loose second third) : Respread loose first third
  | split (front back : List Attribute) (items further : List AttributeItem) :
      Respread loose (front ++ .own (items ++ further) :: back)
        (front ++ .own items :: .own further :: back)
  | blank (front back : List Attribute) :
      Respread loose (front ++ back) (front ++ .own [] :: back)
  | foreign (front back : List Attribute) {tag : Attribute}
      (other : tag.path ≠ Attribute.ownPath) :
      Respread loose (front ++ back) (front ++ tag :: back)
  | moved (front back : List Attribute) (items further : List AttributeItem)
      {item : AttributeItem} (free : item ∈ loose) (next : AttributeItem) :
      Respread loose (front ++ .own (items ++ item :: next :: further) :: back)
        (front ++ .own (items ++ next :: item :: further) :: back)
  | repeated (front back : List Attribute) (items further : List AttributeItem)
      {item : AttributeItem} (free : item ∈ loose) :
      Respread loose (front ++ .own (items ++ item :: further) :: back)
        (front ++ .own (items ++ item :: item :: further) :: back)

/-- The items of two lists are the same but for the loose ones, and a loose one that occurs
in either occurs in the other. -/
structure SameItems (loose first second : List AttributeItem) : Prop where
  fixed : first.filter (· ∉ loose) = second.filter (· ∉ loose)
  occurs : ∀ item, item ∈ first ↔ item ∈ second

variable {loose : List AttributeItem} {first second : List Attribute}

/-- Spreading items otherwise keeps all but the places of the loose ones, change by
change. -/
theorem Respread.sameItems (respread : Respread loose first second) :
    SameItems loose (ownItems first) (ownItems second) := by
  induction respread with
  | refl attributes => exact ⟨rfl, fun _ => Iff.rfl⟩
  | symm _ same => exact ⟨same.fixed.symm, fun item => (same.occurs item).symm⟩
  | trans _ _ one two =>
      exact ⟨one.fixed.trans two.fixed, fun item => (one.occurs item).trans (two.occurs item)⟩
  | split front back items further =>
      have same : ownItems (front ++ .own (items ++ further) :: back) =
          ownItems (front ++ .own items :: .own further :: back) := by simp
      exact same ▸ ⟨rfl, fun _ => Iff.rfl⟩
  | blank front back =>
      have same : ownItems (front ++ back) = ownItems (front ++ .own [] :: back) := by simp
      exact same ▸ ⟨rfl, fun _ => Iff.rfl⟩
  | foreign front back other =>
      rw [ownItems_append, ownItems_append, ownItems_of_foreign other]
      exact ⟨rfl, fun _ => Iff.rfl⟩
  | moved front back items further free next =>
      constructor
      · simp [List.filter_cons, free]
      · intro item
        simp only [ownItems_append, ownItems_own, List.mem_append, List.mem_cons]
        grind
  | repeated front back items further free =>
      constructor
      · simp [free]
      · intro item
        simp

/-! ### Fields of a record type -/

/-- Why an item has no meaning for a field of a record type. -/
inductive ColumnFlaw : AttributeItem → DeclarationFault → Prop
  | form {value : Option ItemValue} (unset : ∀ text, value ≠ some (.text text)) :
      ColumnFlaw ⟨["column"], value⟩ .columnForm
  | value (content : ItemValue) : ColumnFlaw ⟨["json"], some content⟩ .unexpectedValue
  | unknown {path : List String} (other : path ∉ [["column"], ["json"]])
      (value : Option ItemValue) : ColumnFlaw ⟨path, value⟩ (.unknownItem path)

theorem ColumnTag.extend_unknown (tag : ColumnTag) {path : List String}
    (other : path ∉ [["column"], ["json"]]) (value : Option ItemValue) :
    tag.extend ⟨path, value⟩ = .error (.unknownItem path) := by
  simp only [List.mem_cons, List.not_mem_nil, or_false, not_or] at other
  simp [ColumnTag.extend, other.1, other.2]

theorem ColumnTag.extend_eq_error_iff (tag : ColumnTag) (item : AttributeItem)
    (fault : DeclarationFault) : tag.extend item = .error fault ↔ ColumnFlaw item fault := by
  constructor
  · intro refused
    obtain ⟨path, value⟩ := item
    by_cases known : path ∈ [["column"], ["json"]]
    · simp only [List.mem_cons, List.not_mem_nil, or_false] at known
      rcases known with rfl | rfl
      · rcases value with _ | _ | _
        · exact Except.error.inj refused ▸ .form (by simp)
        · cases refused
        · exact Except.error.inj refused ▸ .form (by simp)
      · rcases value with _ | content
        · cases refused
        · exact Except.error.inj refused ▸ .value content
    · rw [tag.extend_unknown known] at refused
      exact Except.error.inj refused ▸ .unknown known value
  · intro flaw
    cases flaw with
    | @form value unset =>
        rcases value with _ | text | _
        · rfl
        · exact absurd rfl (unset text)
        · rfl
    | value content => rfl
    | unknown other value => exact tag.extend_unknown other value

theorem columnFlawless_iff {item : AttributeItem} :
    (∀ fault, ¬ ColumnFlaw item fault) ↔
      (∃ text, item = .setting "column" text) ∨ item = .json := by
  constructor
  · intro flawless
    cases taken : ColumnTag.extend ⟨none, false⟩ item with
    | error fault => exact absurd ((ColumnTag.extend_eq_error_iff _ _ _).mp taken) (flawless fault)
    | ok tag =>
        unfold ColumnTag.extend at taken
        split at taken
        · next path text column set =>
            exact .inl ⟨text, by cases item; simp_all [AttributeItem.setting]⟩
        · cases taken
        · next json unset => exact .inr (by cases item; simp_all [AttributeItem.json])
        · cases taken
        · cases taken
  · intro known fault flaw
    have refused := (ColumnTag.extend_eq_error_iff ⟨none, false⟩ item fault).mpr flaw
    rcases known with ⟨text, rfl⟩ | rfl <;> cases refused

/-- A pass over items with a meaning keeps the last text for the column, and whether JSON
was asked for. -/
theorem foldlM_columnTag {items : List AttributeItem}
    (flawless : ∀ item ∈ items, ∀ fault, ¬ ColumnFlaw item fault) (tag : ColumnTag) :
    items.foldlM ColumnTag.extend tag =
      .ok ⟨(textsOf "column" items).getLast?.or tag.column, tag.json || .json ∈ items⟩ := by
  induction items generalizing tag with
  | nil => simp [pure, Except.pure]
  | cons item rest inductionHypothesis =>
      have behind := inductionHypothesis (List.forall_mem_cons.mp flawless).2
      rcases columnFlawless_iff.mp (flawless item List.mem_cons_self) with ⟨text, rfl⟩ | rfl
      · have taken : tag.extend (.setting "column" text) = .ok { tag with column := some text } :=
          rfl
        rw [List.foldlM_cons, taken]
        refine (behind _).trans ?_
        simp [List.getLast?_cons]
      · have taken : tag.extend .json = .ok { tag with json := true } := rfl
        rw [List.foldlM_cons, taken]
        refine (behind _).trans ?_
        simp

theorem readAttributes_columnTag {attributes : List Attribute}
    (flawless : ∀ item ∈ ownItems attributes, ∀ fault, ¬ ColumnFlaw item fault) :
    readAttributes ColumnTag.extend ⟨none, false⟩ attributes =
      .ok ⟨(textsOf "column" (ownItems attributes)).getLast?,
        .json ∈ ownItems attributes⟩ := by
  rw [readAttributes_eq_foldlM, foldlM_columnTag flawless]
  simp

/-- What a field of a record type is mapped to by the items of its attributes. -/
inductive MapsTo (declaration : FieldDeclaration) (name : String)
    (items : List AttributeItem) : Except DeclarationFault (Option FieldDef) → Prop
  /-- The first item with a flaw decides the fault. -/
  | flawed {front back : List AttributeItem} {item : AttributeItem} {fault : DeclarationFault}
      (split : items = front ++ item :: back)
      (passed : ∀ earlier ∈ front, ∀ other, ¬ ColumnFlaw earlier other)
      (flaw : ColumnFlaw item fault) : MapsTo declaration name items (.error fault)
  | unplaced (flawless : ∀ item ∈ items, ∀ fault, ¬ ColumnFlaw item fault)
      (json : .json ∈ items) (missing : textsOf "column" items = []) :
      MapsTo declaration name items (.error .jsonWithoutColumn)
  | untagged (none : items = []) : MapsTo declaration name items (.ok .none)
  | mapped (flawless : ∀ item ∈ items, ∀ fault, ¬ ColumnFlaw item fault) {column : String}
      (last : (textsOf "column" items).getLast? = some column) :
      MapsTo declaration name items (.ok (some {
        field := name
        column := column
        nullable := declaration.type.isOption
        json := .json ∈ items
        isPublic := declaration.isPublic }))

variable {declaration : FieldDeclaration} {name : String} {items : List AttributeItem}

/-- The items of a field have one of the four meanings. -/
theorem exists_mapsTo (declaration : FieldDeclaration) (name : String)
    (items : List AttributeItem) : ∃ outcome, MapsTo declaration name items outcome := by
  rcases flawless_or_flawed ColumnFlaw items with flawless | ⟨_, _, _, _, split, passed, flaw⟩
  · cases last : (textsOf "column" items).getLast? with
    | some column => exact ⟨_, .mapped flawless last⟩
    | none =>
        have missing : textsOf "column" items = [] := List.getLast?_eq_none_iff.mp last
        by_cases json : .json ∈ items
        · exact ⟨_, .unplaced flawless json missing⟩
        · refine ⟨_, .untagged (List.eq_nil_iff_forall_not_mem.mpr fun item member => ?_)⟩
          rcases columnFlawless_iff.mp (flawless item member) with ⟨text, rfl⟩ | rfl
          · exact textsOf_eq_nil_iff.mp missing text member
          · exact json member
  · exact ⟨_, .flawed split passed flaw⟩

/-- The mapping is read off the items that count. -/
theorem MapsTo.mapping_eq (named : declaration.name = some name)
    {outcome : Except DeclarationFault (Option FieldDef)}
    (maps : MapsTo declaration name (ownItems declaration.attributes) outcome) :
    declaration.mapping = outcome := by
  cases maps with
  | flawed split passed flaw =>
      have refused := (foldlM_eq_error_iff ColumnTag.extend_eq_error_iff ⟨none, false⟩).mpr
        ⟨_, _, _, split, passed, flaw⟩
      rw [← readAttributes_eq_foldlM] at refused
      simp only [FieldDeclaration.mapping, named, refused]
      rfl
  | unplaced flawless json missing =>
      have read := readAttributes_columnTag flawless
      simp only [missing, json] at read
      simp only [FieldDeclaration.mapping, named, read]
      rfl
  | untagged none =>
      have flawless : ∀ item ∈ ownItems declaration.attributes,
          ∀ fault, ¬ ColumnFlaw item fault := by simp [none]
      have read := readAttributes_columnTag flawless
      simp only [none] at read
      simp only [FieldDeclaration.mapping, named, read]
      rfl
  | mapped flawless last =>
      have read := readAttributes_columnTag flawless
      rw [last] at read
      simp only [FieldDeclaration.mapping, named, read]
      rfl

theorem mapping_eq_iff (named : declaration.name = some name)
    {outcome : Except DeclarationFault (Option FieldDef)} :
    declaration.mapping = outcome ↔
      MapsTo declaration name (ownItems declaration.attributes) outcome := by
  constructor
  · rintro rfl
    obtain ⟨outcome, maps⟩ := exists_mapsTo declaration name (ownItems declaration.attributes)
    exact (maps.mapping_eq named).symm ▸ maps
  · exact fun maps => maps.mapping_eq named

/-- Whether an item asks for JSON can be settled before the others are read. -/
theorem foldlM_columnTag_filter (tag : ColumnTag) (items : List AttributeItem) :
    items.foldlM ColumnTag.extend tag =
      (items.filter (· ∉ [AttributeItem.json])).foldlM ColumnTag.extend
        ⟨tag.column, tag.json || .json ∈ items⟩ := by
  induction items generalizing tag with
  | nil => simp
  | cons item rest inductionHypothesis =>
      by_cases json : item = .json
      · subst json
        have taken : tag.extend .json = .ok { tag with json := true } := rfl
        rw [List.foldlM_cons, taken]
        refine (inductionHypothesis _).trans ?_
        simp
      · rw [List.filter_cons_of_pos (by simpa using json), List.foldlM_cons, List.foldlM_cons]
        by_cases flawless : ∀ fault, ¬ ColumnFlaw item fault
        · obtain ⟨text, rfl⟩ := (columnFlawless_iff.mp flawless).resolve_right json
          have taken (state : ColumnTag) : state.extend (.setting "column" text) =
              .ok { state with column := some text } := rfl
          have elsewhere : decide (AttributeItem.json ∈ .setting "column" text :: rest) =
              decide (AttributeItem.json ∈ rest) := by simp
          rw [taken, taken, elsewhere]
          exact inductionHypothesis ⟨some text, tag.json⟩
        · obtain ⟨fault, flaw⟩ : ∃ fault, ColumnFlaw item fault := by
            simpa only [Classical.not_forall, Classical.not_not] using flawless
          rw [(ColumnTag.extend_eq_error_iff _ _ _).mpr flaw,
            (ColumnTag.extend_eq_error_iff _ _ _).mpr flaw]
          rfl

/-- A field is mapped alike if its items are spread otherwise. -/
theorem mapping_of_respread (declaration : FieldDeclaration) {other : List Attribute}
    (respread : Respread [.json] declaration.attributes other) :
    { declaration with attributes := other }.mapping = declaration.mapping := by
  have same := respread.sameItems
  have read : readAttributes ColumnTag.extend ⟨none, false⟩ other =
      readAttributes ColumnTag.extend ⟨none, false⟩ declaration.attributes := by
    rw [readAttributes_eq_foldlM, readAttributes_eq_foldlM, foldlM_columnTag_filter,
      foldlM_columnTag_filter _ (ownItems declaration.attributes), same.fixed]
    simp only [same.occurs]
  simp only [FieldDeclaration.mapping, read]

/-! ### Parts of a joined type -/

/-- Why an item has no meaning for a part. -/
inductive AliasFlaw : AttributeItem → DeclarationFault → Prop
  | form {value : Option ItemValue} (unset : ∀ text, value ≠ some (.text text)) :
      AliasFlaw ⟨["table"], value⟩ .tableForm
  | unknown {path : List String} (other : path ≠ ["table"]) (value : Option ItemValue) :
      AliasFlaw ⟨path, value⟩ .unknownPartItem

theorem extendAlias_eq_error_iff (state : Option String) (item : AttributeItem)
    (fault : DeclarationFault) : extendAlias state item = .error fault ↔ AliasFlaw item fault := by
  obtain ⟨path, value⟩ := item
  by_cases table : path = ["table"]
  · subst table
    constructor
    · intro refused
      rcases value with _ | _ | _
      · exact Except.error.inj refused ▸ .form (by simp)
      · cases refused
      · exact Except.error.inj refused ▸ .form (by simp)
    · intro flaw
      cases flaw with
      | form unset =>
          rcases value with _ | text | _
          · rfl
          · exact absurd rfl (unset text)
          · rfl
      | unknown other => exact absurd rfl other
  · have refused : extendAlias state ⟨path, value⟩ = .error .unknownPartItem := by
      simp [extendAlias, table]
    rw [refused]
    constructor
    · intro same
      exact Except.error.inj same ▸ .unknown table value
    · intro flaw
      cases flaw with
      | form => exact absurd rfl table
      | unknown => rfl

theorem aliasFlawless_iff {item : AttributeItem} :
    (∀ fault, ¬ AliasFlaw item fault) ↔ ∃ text, item = .setting "table" text := by
  constructor
  · intro flawless
    cases taken : extendAlias none item with
    | error fault => exact absurd ((extendAlias_eq_error_iff _ _ _).mp taken) (flawless fault)
    | ok found =>
        unfold extendAlias at taken
        split at taken
        · next text table set => exact ⟨text, by cases item; simp_all [AttributeItem.setting]⟩
        · cases taken
        · cases taken
  · rintro ⟨text, rfl⟩ fault flaw
    cases (extendAlias_eq_error_iff none _ fault).mpr flaw

theorem foldlM_extendAlias {items : List AttributeItem}
    (flawless : ∀ item ∈ items, ∀ fault, ¬ AliasFlaw item fault) (state : Option String) :
    items.foldlM extendAlias state = .ok ((textsOf "table" items).getLast?.or state) := by
  induction items generalizing state with
  | nil => simp [pure, Except.pure]
  | cons item rest inductionHypothesis =>
      have behind := inductionHypothesis (List.forall_mem_cons.mp flawless).2
      obtain ⟨text, rfl⟩ := aliasFlawless_iff.mp (flawless item List.mem_cons_self)
      have taken : extendAlias state (.setting "table" text) = .ok (some text) := rfl
      rw [List.foldlM_cons, taken]
      refine (behind _).trans ?_
      simp [List.getLast?_cons]

/-- Why a part cannot be held as a type. -/
inductive DeclaredType.Indirect : DeclaredType → DeclarationFault → Prop
  | reference (target : DeclaredType) : Indirect (.reference target) .referencedPart
  | pointer (target : DeclaredType) : Indirect (.pointer target) .referencedPart
  | wrapper (front : List TypeSegment) {name : String}
      (wraps : name ∈ ["Option", "Box", "Rc", "Arc"]) (arguments : List TypeArgument) :
      Indirect (.path (front ++ [⟨name, arguments⟩])) (.wrappedPart name)

theorem DeclaredType.partFault?_eq_some_iff {type : DeclaredType} {fault : DeclarationFault} :
    type.partFault? = some fault ↔ type.Indirect fault := by
  constructor
  · intro found
    cases type with
    | path segments =>
        simp only [partFault?, lastSegment?, Option.map_eq_some_iff, Option.filter_eq_some_iff,
          wrappers, List.contains_eq_mem, decide_eq_true_eq] at found
        obtain ⟨segment, ⟨last, wraps⟩, rfl⟩ := found
        obtain ⟨front, rfl⟩ := List.getLast?_eq_some_iff.mp last
        exact .wrapper front wraps segment.arguments
    | reference target => exact Option.some.inj found ▸ .reference target
    | pointer target => exact Option.some.inj found ▸ .pointer target
    | array _ | slice _ | tuple | parenthesized _ | grouped _ | unnamed _ => cases found
  · intro held
    cases held with
    | reference => rfl
    | pointer => rfl
    | wrapper front wraps arguments =>
        simp [partFault?, lastSegment?, wrappers, Option.filter, wraps]

/-- What a field of a joined type is joined as by its type and the items of its
attributes. -/
inductive JoinsAs (declaration : FieldDeclaration) (name : String)
    (items : List AttributeItem) : Except DeclarationFault PartDeclaration → Prop
  | indirect {fault : DeclarationFault} (held : declaration.type.Indirect fault) :
      JoinsAs declaration name items (.error fault)
  /-- The first item with a flaw decides the fault. -/
  | flawed (direct : ∀ fault, ¬ declaration.type.Indirect fault)
      {front back : List AttributeItem} {item : AttributeItem} {fault : DeclarationFault}
      (split : items = front ++ item :: back)
      (passed : ∀ earlier ∈ front, ∀ other, ¬ AliasFlaw earlier other)
      (flaw : AliasFlaw item fault) : JoinsAs declaration name items (.error fault)
  | untagged (direct : ∀ fault, ¬ declaration.type.Indirect fault) (none : items = []) :
      JoinsAs declaration name items (.error (.missingAlias name))
  | joined (direct : ∀ fault, ¬ declaration.type.Indirect fault)
      (flawless : ∀ item ∈ items, ∀ fault, ¬ AliasFlaw item fault) {tableAlias : String}
      (last : (textsOf "table" items).getLast? = some tableAlias) :
      JoinsAs declaration name items (.ok ⟨name, tableAlias⟩)

theorem exists_joinsAs (declaration : FieldDeclaration) (name : String)
    (items : List AttributeItem) : ∃ outcome, JoinsAs declaration name items outcome := by
  by_cases held : ∃ fault, declaration.type.Indirect fault
  · obtain ⟨fault, held⟩ := held
    exact ⟨_, .indirect held⟩
  have direct : ∀ fault, ¬ declaration.type.Indirect fault := fun fault here => held ⟨fault, here⟩
  rcases flawless_or_flawed AliasFlaw items with flawless | ⟨_, _, _, _, split, passed, flaw⟩
  · cases last : (textsOf "table" items).getLast? with
    | some tableAlias => exact ⟨_, .joined direct flawless last⟩
    | none =>
        have missing : textsOf "table" items = [] := List.getLast?_eq_none_iff.mp last
        refine ⟨_, .untagged direct (List.eq_nil_iff_forall_not_mem.mpr fun item member => ?_)⟩
        obtain ⟨text, rfl⟩ := aliasFlawless_iff.mp (flawless item member)
        exact textsOf_eq_nil_iff.mp missing text member
  · exact ⟨_, .flawed direct split passed flaw⟩

theorem JoinsAs.part_eq (named : declaration.name = some name)
    {outcome : Except DeclarationFault PartDeclaration}
    (joins : JoinsAs declaration name (ownItems declaration.attributes) outcome) :
    declaration.part = outcome := by
  have heldDirectly (direct : ∀ fault, ¬ declaration.type.Indirect fault) :
      declaration.type.partFault? = none :=
    Option.eq_none_iff_forall_ne_some.mpr fun fault found =>
      direct fault (DeclaredType.partFault?_eq_some_iff.mp found)
  have readAll (flawless : ∀ item ∈ ownItems declaration.attributes,
      ∀ fault, ¬ AliasFlaw item fault) :
      readAttributes extendAlias none declaration.attributes =
        .ok (textsOf "table" (ownItems declaration.attributes)).getLast? := by
    rw [readAttributes_eq_foldlM, foldlM_extendAlias flawless, Option.or_none]
  cases joins with
  | indirect held =>
      simp only [FieldDeclaration.part, named, DeclaredType.partFault?_eq_some_iff.mpr held]
  | flawed direct split passed flaw =>
      have refused := (foldlM_eq_error_iff extendAlias_eq_error_iff none).mpr
        ⟨_, _, _, split, passed, flaw⟩
      rw [← readAttributes_eq_foldlM] at refused
      simp only [FieldDeclaration.part, named, heldDirectly direct, refused]
      rfl
  | untagged direct none =>
      have read := readAll (by simp [none])
      simp only [none] at read
      simp only [FieldDeclaration.part, named, heldDirectly direct, read]
      rfl
  | joined direct flawless last =>
      have read := readAll flawless
      rw [last] at read
      simp only [FieldDeclaration.part, named, heldDirectly direct, read]
      rfl

theorem part_eq_iff (named : declaration.name = some name)
    {outcome : Except DeclarationFault PartDeclaration} :
    declaration.part = outcome ↔
      JoinsAs declaration name (ownItems declaration.attributes) outcome := by
  constructor
  · rintro rfl
    obtain ⟨outcome, joins⟩ := exists_joinsAs declaration name (ownItems declaration.attributes)
    exact (joins.part_eq named).symm ▸ joins
  · exact fun joins => joins.part_eq named

/-- A field is joined alike if its items are spread otherwise. -/
theorem part_of_respread (declaration : FieldDeclaration) {other : List Attribute}
    (respread : Respread [] declaration.attributes other) :
    { declaration with attributes := other }.part = declaration.part := by
  have whole (items : List AttributeItem) : items.filter (· ∉ []) = items :=
    List.filter_eq_self.mpr (by simp)
  have same := respread.sameItems.fixed
  rw [whole, whole] at same
  have read : readAttributes extendAlias none other =
      readAttributes extendAlias none declaration.attributes := by
    rw [readAttributes_eq_foldlM, readAttributes_eq_foldlM, same]
  simp only [FieldDeclaration.part, read]

/-! ### Fields and parts by their items -/

theorem mapping_fails_iff (named : declaration.name = some name) :
    (∃ fault, declaration.mapping = .error fault) ↔
      (∃ item ∈ ownItems declaration.attributes,
        (∀ text, item ≠ .setting "column" text) ∧ item ≠ .json) ∨
      (.json ∈ ownItems declaration.attributes ∧
        textsOf "column" (ownItems declaration.attributes) = []) := by
  have unknown (item : AttributeItem) : (∃ fault, ColumnFlaw item fault) ↔
      (∀ text, item ≠ .setting "column" text) ∧ item ≠ .json := by
    have known := @columnFlawless_iff item
    grind
  simp only [mapping_eq_iff named, ← unknown]
  constructor
  · rintro ⟨fault, maps⟩
    cases maps with
    | @flawed front back item fault split passed flaw =>
        exact .inl ⟨item, by simp [split], fault, flaw⟩
    | unplaced flawless json missing => exact .inr ⟨json, missing⟩
  · intro fails
    obtain ⟨outcome, maps⟩ := exists_mapsTo declaration name (ownItems declaration.attributes)
    cases outcome with
    | error fault => exact ⟨fault, maps⟩
    | ok found =>
        exfalso
        cases maps with
        | untagged none => simp [none] at fails
        | mapped flawless last =>
            rcases fails with ⟨item, member, fault, flaw⟩ | ⟨-, missing⟩
            · exact flawless item member fault flaw
            · simp [missing] at last

theorem part_fails_iff (named : declaration.name = some name) :
    (∃ fault, declaration.part = .error fault) ↔
      (∃ fault, declaration.type.Indirect fault) ∨
      (∃ item ∈ ownItems declaration.attributes, ∀ text, item ≠ .setting "table" text) ∨
      textsOf "table" (ownItems declaration.attributes) = [] := by
  have unknown (item : AttributeItem) : (∃ fault, AliasFlaw item fault) ↔
      ∀ text, item ≠ .setting "table" text := by
    have known := @aliasFlawless_iff item
    grind
  simp only [part_eq_iff named, ← unknown]
  constructor
  · rintro ⟨fault, joins⟩
    cases joins with
    | indirect held => exact .inl ⟨fault, held⟩
    | @flawed _ front back item fault split passed flaw =>
        exact .inr (.inl ⟨item, by simp [split], fault, flaw⟩)
    | untagged direct none => exact .inr (.inr (by rw [none]; rfl))
  · intro fails
    obtain ⟨outcome, joins⟩ := exists_joinsAs declaration name (ownItems declaration.attributes)
    cases outcome with
    | error fault => exact ⟨fault, joins⟩
    | ok found =>
        exfalso
        cases joins with
        | joined direct flawless last =>
            rcases fails with ⟨fault, held⟩ | ⟨item, member, fault, flaw⟩ | missing
            · exact direct fault held
            · exact flawless item member fault flaw
            · simp [missing] at last

/-- What a named field is mapped to and joined as is decided by the items of the attributes
that count, in order.  A mapping fails exactly if an item neither sets a column to a text
nor asks for JSON, or if JSON is asked for and no column set; there is none exactly without
items; any other is of the last column, stored as JSON if that was asked for anywhere.  A
part fails exactly if its type is no record held by value, if an item sets no alias to a
text, or without an alias; any other has the last alias.  Items spread otherwise decide the
same, also with JSON asked for elsewhere or again. -/
theorem attributes_read_as_items {declaration : FieldDeclaration} {name : String}
    (named : declaration.name = some name) :
    ((∃ fault, declaration.mapping = .error fault) ↔
      (∃ item ∈ ownItems declaration.attributes,
        (∀ text, item ≠ .setting "column" text) ∧ item ≠ .json) ∨
      (.json ∈ ownItems declaration.attributes ∧
        textsOf "column" (ownItems declaration.attributes) = [])) ∧
    (declaration.mapping = .ok none ↔ ownItems declaration.attributes = []) ∧
    (∀ field, declaration.mapping = .ok (some field) ↔
      (∀ item ∈ ownItems declaration.attributes,
        (∃ text, item = .setting "column" text) ∨ item = .json) ∧
      ∃ column,
        (textsOf "column" (ownItems declaration.attributes)).getLast? = some column ∧
        field = {
          field := name
          column := column
          nullable := declaration.type.isOption
          json := .json ∈ ownItems declaration.attributes
          isPublic := declaration.isPublic }) ∧
    (∀ attributes, Respread [.json] declaration.attributes attributes →
      { declaration with attributes := attributes }.mapping = declaration.mapping) ∧
    ((∃ fault, declaration.part = .error fault) ↔
      (∃ fault, declaration.type.Indirect fault) ∨
      (∃ item ∈ ownItems declaration.attributes, ∀ text, item ≠ .setting "table" text) ∨
      textsOf "table" (ownItems declaration.attributes) = []) ∧
    (∀ found, declaration.part = .ok found ↔
      (∀ fault, ¬ declaration.type.Indirect fault) ∧
      (∀ item ∈ ownItems declaration.attributes, ∃ text, item = .setting "table" text) ∧
      ∃ tableAlias,
        (textsOf "table" (ownItems declaration.attributes)).getLast? = some tableAlias ∧
        found = ⟨name, tableAlias⟩) ∧
    ∀ attributes, Respread [] declaration.attributes attributes →
      { declaration with attributes := attributes }.part = declaration.part := by
  refine ⟨mapping_fails_iff named, ?_, fun field => ?_,
    fun attributes => mapping_of_respread declaration, part_fails_iff named, fun found => ?_,
    fun attributes => part_of_respread declaration⟩
  · rw [mapping_eq_iff named]
    constructor
    · intro maps
      cases maps with
      | untagged none => exact none
    · exact .untagged
  · rw [mapping_eq_iff named]
    constructor
    · intro maps
      cases maps with
      | mapped flawless last =>
          exact ⟨fun item member => columnFlawless_iff.mp (flawless item member), _, last, rfl⟩
    · rintro ⟨known, column, last, rfl⟩
      exact .mapped (fun item member => columnFlawless_iff.mpr (known item member)) last
  · rw [part_eq_iff named]
    constructor
    · intro joins
      cases joins with
      | joined direct flawless last =>
          exact ⟨direct, fun item member => aliasFlawless_iff.mp (flawless item member), _, last,
            rfl⟩
    · rintro ⟨direct, known, tableAlias, last, rfl⟩
      exact .joined direct (fun item member => aliasFlawless_iff.mpr (known item member)) last

/-- Attributes of other libraries around two of this one, of which the first asks for JSON
in front of a column that the second replaces. -/
def scatteredTags : List Attribute :=
  [⟨["doc"], []⟩, .own [.json, .setting "column" "spot"], ⟨["serde"], [⟨["skip"], none⟩]⟩,
    .own [.setting "column" "place"]]

/-- One attribute that says the same, and asks for JSON twice at its end. -/
theorem attributes_read_as_items_scattered :
    FieldDeclaration.name ⟨some "home", true, .path [⟨"Place", []⟩], scatteredTags⟩ =
      some "home" ∧
    Respread [.json] scatteredTags
      [.own [.setting "column" "spot", .setting "column" "place", .json, .json]] ∧
    FieldDeclaration.mapping ⟨some "home", true, .path [⟨"Place", []⟩],
        [.own [.setting "column" "spot", .setting "column" "place", .json, .json]]⟩ =
      .ok (some ⟨"home", "place", false, true, true⟩) := by
  have respread : Respread [.json] scatteredTags
      [.own [.setting "column" "spot", .setting "column" "place", .json, .json]] := by
    refine (Respread.foreign [] _ (by decide)).symm.trans ?_
    refine (Respread.foreign [_] _ (by decide)).symm.trans ?_
    refine (Respread.split [] [] [_, _] [_]).symm.trans ?_
    refine (Respread.moved [] [] [] [_] List.mem_cons_self _).trans ?_
    refine (Respread.moved [] [] [_] [] List.mem_cons_self _).trans ?_
    exact .repeated [] [] [_, _] [] List.mem_cons_self
  obtain ⟨-, -, mapped, moved, -⟩ := @attributes_read_as_items
    ⟨some "home", true, .path [⟨"Place", []⟩], scatteredTags⟩ "home" rfl
  refine ⟨rfl, respread, (moved _ respread).trans
    ((mapped _).mpr ⟨fun item member => ?_, "place", rfl, rfl⟩)⟩
  have listed : item ∈ [.json, .setting "column" "spot", .setting "column" "place"] := member
  simp only [List.mem_cons, List.not_mem_nil, or_false] at listed
  rcases listed with rfl | rfl | rfl
  · exact .inr rfl
  · exact .inl ⟨"spot", rfl⟩
  · exact .inl ⟨"place", rfl⟩

end RecordMapping
